import Mathlib.Data.List.Forall2
import Mathlib.Data.List.ReduceOption
import RegionGateway.Gateway.Client
import RegionGateway.Proofs.Json.ReadBack

/-!
# Replies as clients read them

How the envelopes of a streamed reply and the body of an error are read:

* `Envelope.reads_data`, `Envelope.reads_result`: an envelope with an item and one with a failure;
* `Envelope.decodeAll_lines`: lines of envelopes are decoded as these envelopes;
* `ApiResponse.decodeStream_items`, `decodeStream_failed`, `decodeStream_refused`: lines of items
  are decoded as the items, unless a line with a failure follows or an item is refused;
* `ApiResponse.decode_errorBody`, `decodeStream_errorBody`: the body of an error, read as what it is
  and read as an envelope.
-/

namespace RegionGateway

variable {α β σ : Type}

theorem Utf8.bytes_append (s t : String) : Utf8.bytes (s ++ t) = Utf8.bytes s ++ Utf8.bytes t := by
  simp [Utf8.bytes]

theorem StreamResult.readsBack (depth : Nat) (result : StreamResult) :
    StreamResult.codec.ReadsBack (depth + 1) result := by
  refine Codec.record_readsBack rfl ?_ ?_
  · simp [Members.Distinct, Members.names, Member.isNamed, Member.defaulted]
  · exact ⟨Codec.text_readsBack depth result.message, Codec.u16_readsBack depth result.code, trivial⟩

theorem ErrorMessage.readsBack (depth : Nat) (body : ErrorMessage) :
    ErrorMessage.codec.ReadsBack (depth + 1) body := by
  refine Codec.record_readsBack rfl ?_ ?_
  · simp [Members.Distinct, Members.names]
  · exact ⟨Codec.text_readsBack depth body.message, trivial⟩

namespace Envelope

/-! ## One envelope -/

/-- The JSON form of an envelope with an item, given the item's JSON form. -/
def dataForm (item : Json) : Json := .obj [("data", item)]

/-- The JSON form of an envelope with a failure. -/
def resultForm (error : GatewayError) : Json :=
  .obj [("result", StreamResult.codec.write ⟨error.message, error.status⟩)]

/-- The text of JSON values, one on a line. -/
def lines (forms : List Json) : Bytes := forms.flatMap fun form => form.bytes ++ [0x0A]

theorem lines_nil : lines [] = [] := rfl

theorem lines_append (forms more : List Json) : lines (forms ++ more) = lines forms ++ lines more :=
  List.flatMap_append

theorem bytes_dataLine (item : Json) : Utf8.bytes (dataLine item) = lines [dataForm item] := by
  rw [dataLine, Utf8.bytes_append, lines, List.flatMap_singleton]
  rfl

theorem bytes_resultLine (error : GatewayError) :
    Utf8.bytes (resultLine error) = lines [resultForm error] := by
  rw [resultLine, Utf8.bytes_append, lines, List.flatMap_singleton]
  rfl

/-- The fields of an envelope. -/
def fields (item : Codec α) : Members (Option α × Option StreamResult × Unit)
    (Option (Option α) × Option (Option StreamResult) × Unit) :=
  .cons (Member.optional "data" item).placed <| .cons (.optional "result" StreamResult.codec) .nil

/-- An object is read as an envelope with what its members are read into. -/
theorem reads_of_fields {item : Codec α} {depth : Nat} {list : List (String × Json)}
    {found : Option (Option α) × Option (Option StreamResult) × Unit} {envelope : Envelope α}
    (hlist : Reader.ReadsMembers ((fields item).fill depth) list (none, none, ()) found)
    (hfound : (fields item).complete found = .ok (envelope.data, envelope.result, ())) :
    (codec item).Reads (depth + 1) (.obj list) envelope :=
  Codec.record_reads hlist hfound

/-- An envelope with an item is read as one with what the item is read as. -/
theorem reads_data {item : Codec α} {depth : Nat} {json : Json} {data : Option α}
    (h : item.option.Reads depth json data) :
    (codec item).Reads (depth + 1) (dataForm json) ⟨data, none⟩ := by
  refine reads_of_fields ⟨(some data, none, ()), ?_, rfl⟩ rfl
  intro more hmore
  show (Reader.colon >>= _) _ = _
  rw [Reader.bind_ok _ (Reader.colon_cons _)]
  exact Reader.bind_ok _ (h more hmore)

theorem refuses_data {item : Codec α} {depth : Nat} {json : Json}
    (h : item.option.Refuses depth json) : (codec item).Refuses (depth + 1) (dataForm json) := by
  refine Codec.record_refuses ?_
  intro more hmore
  obtain ⟨fault, hread⟩ := h more hmore
  refine ⟨fault, ?_⟩
  show (Reader.colon >>= _) _ = _
  rw [Reader.bind_ok _ (Reader.colon_cons _)]
  exact Reader.bind_error _ hread

theorem reads_result (item : Codec α) (depth : Nat) (error : GatewayError) :
    (codec item).Reads (depth + 2) (resultForm error) ⟨none, some ⟨error.message, error.status⟩⟩ := by
  have hresult := Codec.option_reads (StreamResult.readsBack depth ⟨error.message, error.status⟩)
    (by intro h; cases h)
  refine reads_of_fields ⟨(none, some (some ⟨error.message, error.status⟩), ()), ?_, rfl⟩ rfl
  intro more hmore
  refine Reader.map_ok (none, ·) ?_
  show (Reader.colon >>= _) _ = _
  rw [Reader.bind_ok _ (Reader.colon_cons _)]
  exact Reader.bind_ok _ (hresult more hmore)

theorem reads_dataForms {item : Codec α} {depth : Nat} {forms : List Json} {data : List (Option α)}
    (h : List.Forall₂ (item.option.Reads depth) forms data) :
    List.Forall₂ ((codec item).Reads (depth + 1)) (forms.map dataForm)
      (data.map fun data => ⟨data, none⟩) := by
  rw [List.forall₂_map_left_iff, List.forall₂_map_right_iff]
  exact h.imp fun _ _ => reads_data

/-! ## Lines of envelopes -/

theorem next_newline (item : Codec α) (rest : Bytes) :
    next item (0x0A :: rest) = next item rest :=
  Reader.bind_congr _ (Reader.peekToken_blank rest (by decide))

theorem next_form {item : Codec α} (form : Json) (rest : Bytes) : next item (form.bytes ++ rest) =
    (some <$> (codec item).read Json.maxDepth) (form.bytes ++ rest) := by
  obtain ⟨b, tail, hbytes, hblank, -⟩ := form.bytes_head
  rw [hbytes, List.cons_append, next, Reader.bind_ok _ (Reader.peekToken_cons _ _ hblank rfl)]
  rfl

theorem next_last {item : Codec α} {form : Json} {envelope : Envelope α}
    (h : (codec item).Reads Json.maxDepth form envelope) :
    next item form.bytes = .ok (some envelope, []) := by
  have hread := h [] .nil
  have hnext : next item (form.bytes ++ []) = _ := next_form form []
  rw [List.append_nil] at hread hnext
  rw [hnext]
  exact Reader.map_ok some hread

theorem next_reads {item : Codec α} {form : Json} {envelope : Envelope α}
    (h : (codec item).Reads Json.maxDepth form envelope) (rest : Bytes) :
    next item (form.bytes ++ 0x0A :: rest) = .ok (some envelope, 0x0A :: rest) := by
  rw [next_form]
  exact Reader.map_ok some (h _ (.blank (by decide) rest))

theorem next_refuses {item : Codec α} {form : Json} (h : (codec item).Refuses Json.maxDepth form)
    (rest : Bytes) : ∃ fault, next item (form.bytes ++ 0x0A :: rest) = .error fault := by
  obtain ⟨fault, hread⟩ := h (0x0A :: rest) (.blank (by decide) rest)
  refine ⟨fault, ?_⟩
  rw [next_form]
  exact Reader.map_error some hread

/-- The loop that reads the next envelope and takes a turn with it. -/
def reading (item : Codec α) (turn : σ → Option (Envelope α) → Turn σ β) (state : σ) :
    Reader (Turn σ β) := do return turn state (← next item)

/-- The turns that are taken with envelopes lead from a state to a state. -/
def Turns (turn : σ → Option (Envelope α) → Turn σ β) : List (Envelope α) → σ → σ → Prop
  | [], before, after => after = before
  | envelope :: rest, before, after =>
    ∃ middle, turn before (some envelope) = .again middle ∧ Turns turn rest middle after

/-- A newline before the next envelope does not show. -/
theorem runs_newline {item : Codec α} {turn : σ → Option (Envelope α) → Turn σ β} {state : σ}
    {input : Bytes} {out : Except Fault (β × Bytes)}
    (h : Reader.Runs (reading item turn) state input out) :
    Reader.Runs (reading item turn) state (0x0A :: input) out := by
  have hstep : reading item turn state (0x0A :: input) = reading item turn state input :=
    Reader.bind_congr _ (next_newline item input)
  cases h with
  | again h hless hruns =>
      exact .again (hstep.trans h) (Nat.lt_succ_of_lt hless) hruns
  | done h => exact .done (hstep.trans h)
  | stop h => exact .stop (hstep.trans h)

/-- Lines that are read as envelopes are gone over line by line. -/
theorem runs_lines {item : Codec α} {turn : σ → Option (Envelope α) → Turn σ β}
    {forms : List Json} {envelopes : List (Envelope α)}
    (hforms : List.Forall₂ ((codec item).Reads Json.maxDepth) forms envelopes) {before after : σ}
    (hturns : Turns turn envelopes before after) {tail : Bytes} {out : Except Fault (β × Bytes)}
    (htail : Reader.Runs (reading item turn) after tail out) :
    Reader.Runs (reading item turn) before (lines forms ++ tail) out := by
  induction hforms generalizing before with
  | nil =>
      cases hturns
      exact htail
  | @cons form envelope forms envelopes hform _ ih =>
      obtain ⟨middle, hturn, hturns⟩ := hturns
      have hnext := next_reads hform (lines forms ++ tail)
      have hstep : reading item turn before (form.bytes ++ 0x0A :: (lines forms ++ tail)) =
          .ok (.again middle, 0x0A :: (lines forms ++ tail)) := by
        rw [← hturn]
        exact Reader.bind_ok _ hnext
      have hsplit : lines (form :: forms) ++ tail = form.bytes ++ 0x0A :: (lines forms ++ tail) := by
        simp [lines]
      rw [hsplit]
      -- the value is gone, the newline after it is left for the next turn
      have hpos := form.length_bytes_pos
      have hless : (0x0A :: (lines forms ++ tail)).length <
          (form.bytes ++ 0x0A :: (lines forms ++ tail)).length := by
        rw [List.length_append]
        omega
      exact .again hstep hless (runs_newline (ih hturns))

/-- The turns of `decodeAll`. -/
def keepTurn (read : List (Envelope α)) : Option (Envelope α) →
    Turn (List (Envelope α)) (List (Envelope α))
  | none => .done read.reverse
  | some envelope => .again (envelope :: read)

theorem decodeAll_eq (item : Codec α) (text : Bytes) :
    decodeAll item text = (Reader.loop (reading item keepTurn) [] text).map (·.1) := by
  have hstep : reading item keepTurn = fun read => do
      match ← next item with
      | none => return Turn.done read.reverse
      | some envelope => return Turn.again (envelope :: read) := by
    funext read
    refine congrArg (next item >>= ·) (funext fun envelope => ?_)
    cases envelope <;> rfl
  rw [hstep]
  rfl

theorem turns_keepTurn (envelopes read : List (Envelope α)) :
    Turns keepTurn envelopes read (envelopes.reverse ++ read) := by
  induction envelopes generalizing read with
  | nil => rfl
  | cons envelope envelopes ih =>
      refine ⟨envelope :: read, rfl, ?_⟩
      rw [List.reverse_cons, List.append_assoc]
      exact ih (envelope :: read)

/-- Lines of envelopes are decoded as these envelopes. -/
theorem decodeAll_lines {item : Codec α} {forms : List Json} {envelopes : List (Envelope α)}
    (h : List.Forall₂ ((codec item).Reads Json.maxDepth) forms envelopes) :
    decodeAll item (lines forms) = .ok envelopes := by
  have hend : reading item keepTurn (envelopes.reverse ++ []) [] =
      .ok (.done envelopes, []) := by
    rw [List.append_nil]
    show Except.ok (Turn.done envelopes.reverse.reverse, ([] : Bytes)) = _
    rw [List.reverse_reverse]
  have hruns := runs_lines h (turns_keepTurn envelopes []) (.done hend)
  rw [List.append_nil] at hruns
  rw [decodeAll_eq, Reader.loop_eq_of_runs hruns]
  rfl

end Envelope

/-! ## Streamed replies -/

namespace ApiResponse

/-- The turns of `decodeStream`. -/
def streamTurn (items : List α) :
    Option (Envelope α) → Turn (List α) (Except StreamResult (List α))
  | none => .done (.ok items.reverse)
  | some envelope =>
    match envelope.result.filter StreamResult.isFailure with
    | some result => .done (.error result)
    | none => .again (envelope.data.toList ++ items)

theorem streamStep_eq (output : Codec α) : streamStep output = Envelope.reading output streamTurn := by
  funext items
  refine congrArg (Envelope.next output >>= ·) (funext fun envelope => ?_)
  cases envelope with
  | none => rfl
  | some envelope =>
      cases hresult : envelope.result.filter StreamResult.isFailure with
      | none => simp only [streamTurn, hresult]
      | some result => simp only [streamTurn, hresult]

theorem turns_streamTurn (data : List (Option α)) (items : List α) :
    Envelope.Turns streamTurn (data.map fun data => ⟨data, none⟩) items
      (data.reduceOption.reverse ++ items) := by
  induction data generalizing items with
  | nil => rfl
  | cons first data ih =>
      refine ⟨first.toList ++ items, rfl, ?_⟩
      cases first with
      | none => exact ih items
      | some item =>
          rw [List.reduceOption_cons_of_some, List.reverse_cons, List.append_assoc]
          exact ih (item :: items)

theorem decodeStream_begun (output : Codec α) (body : Bytes) : decodeStream output ⟨200, body⟩ =
    match Reader.loop (streamStep output) [] body with
    | .error fault => .error (.decode fault.message)
    | .ok (.error result, _) => .error (.stream result.code result.message)
    | .ok (.ok items, _) => .ok items := rfl

section

variable {output : Codec α} {forms : List Json} {data : List (Option α)}

/-- A reply of which the lines with items are read, and then what follows them. -/
theorem loop_streamStep (h : List.Forall₂ (output.option.Reads (Json.maxDepth - 1)) forms data)
    {tail : Bytes} {out : Except Fault (Except StreamResult (List α) × Bytes)}
    (htail : Reader.Runs (Envelope.reading output streamTurn) data.reduceOption.reverse tail out) :
    Reader.loop (streamStep output) [] (Envelope.lines (forms.map Envelope.dataForm) ++ tail) = out := by
  have hturns := turns_streamTurn data ([] : List α)
  rw [List.append_nil] at hturns
  rw [streamStep_eq]
  exact Reader.loop_eq_of_runs (Envelope.runs_lines (Envelope.reads_dataForms h) hturns htail)

theorem reading_end (items : List α) :
    Envelope.reading output streamTurn items.reverse [] = .ok (.done (.ok items), []) := by
  show Except.ok (Turn.done (Except.ok items.reverse.reverse), ([] : Bytes)) = _
  rw [List.reverse_reverse]

/-- Items and the end. -/
theorem decodeStream_items (h : List.Forall₂ (output.option.Reads (Json.maxDepth - 1)) forms data) :
    decodeStream output ⟨200, Envelope.lines (forms.map Envelope.dataForm)⟩ =
      .ok data.reduceOption := by
  have hloop := loop_streamStep h (.done (reading_end data.reduceOption))
  rw [List.append_nil] at hloop
  rw [decodeStream_begun, hloop]

/-- Items and a failure. -/
theorem decodeStream_failed (h : List.Forall₂ (output.option.Reads (Json.maxDepth - 1)) forms data)
    {error : GatewayError} (herror : error.status ≠ 0 ∧ error.status ≠ 200) :
    decodeStream output ⟨200, Envelope.lines (forms.map Envelope.dataForm) ++
      Envelope.lines [Envelope.resultForm error]⟩ = .error (.stream error.status error.message) := by
  have hfailure : StreamResult.isFailure ⟨error.message, error.status⟩ = true := by
    simp [StreamResult.isFailure, herror]
  have hturn : streamTurn data.reduceOption.reverse
      (some ⟨none, some ⟨error.message, error.status⟩⟩) =
      .done (.error ⟨error.message, error.status⟩) := by
    simp [streamTurn, Option.filter, hfailure]
  have hnext := Envelope.next_reads (Envelope.reads_result output (Json.maxDepth - 2) error) []
  have hstep : Envelope.reading output streamTurn data.reduceOption.reverse
      (Envelope.lines [Envelope.resultForm error]) =
      .ok (.done (.error ⟨error.message, error.status⟩), [0x0A]) := by
    rw [← hturn, Envelope.lines, List.flatMap_singleton]
    exact Reader.bind_ok _ hnext
  rw [decodeStream_begun, loop_streamStep h (.done hstep)]

/-- Items and a report that is no failure. -/
theorem decodeStream_reported
    (h : List.Forall₂ (output.option.Reads (Json.maxDepth - 1)) forms data) {error : GatewayError}
    (herror : error.status = 0 ∨ error.status = 200) :
    decodeStream output ⟨200, Envelope.lines (forms.map Envelope.dataForm) ++
      Envelope.lines [Envelope.resultForm error]⟩ = .ok data.reduceOption := by
  have hfailure : StreamResult.isFailure ⟨error.message, error.status⟩ = false := by
    rcases herror with herror | herror <;> simp [StreamResult.isFailure, herror]
  have hturn : streamTurn data.reduceOption.reverse
      (some ⟨none, some ⟨error.message, error.status⟩⟩) = .again data.reduceOption.reverse := by
    simp [streamTurn, Option.filter, hfailure]
  have hreport : List.Forall₂ ((Envelope.codec output).Reads Json.maxDepth)
      [Envelope.resultForm error] [⟨none, some ⟨error.message, error.status⟩⟩] :=
    .cons (Envelope.reads_result output (Json.maxDepth - 2) error) .nil
  have hruns := Envelope.runs_lines hreport ⟨_, hturn, rfl⟩ (.done (reading_end data.reduceOption))
  rw [List.append_nil] at hruns
  rw [decodeStream_begun, loop_streamStep h hruns]

/-- Items, of which one is refused. -/
theorem decodeStream_refused
    (h : List.Forall₂ (output.option.Reads (Json.maxDepth - 1)) forms data) {form : Json}
    (hform : output.option.Refuses (Json.maxDepth - 1) form) (rest : Bytes) : ∃ fault,
    decodeStream output ⟨200, Envelope.lines (forms.map Envelope.dataForm) ++
      (Envelope.lines [Envelope.dataForm form] ++ rest)⟩ = .error (.decode fault) := by
  obtain ⟨fault, hnext⟩ := Envelope.next_refuses (Envelope.refuses_data hform) rest
  have hstep : Envelope.reading output streamTurn data.reduceOption.reverse
      (Envelope.lines [Envelope.dataForm form] ++ rest) = .error fault := by
    rw [Envelope.lines, List.flatMap_singleton, List.append_assoc]
    exact Reader.bind_error _ hnext
  refine ⟨fault.message, ?_⟩
  rw [decodeStream_begun, loop_streamStep h (.stop hstep)]

end

/-! ## Bodies of errors -/

/-- The body of the reply to a failed request. -/
def errorBody (error : GatewayError) : Bytes :=
  Utf8.bytes (ErrorMessage.codec.encode ⟨error.message⟩)

theorem decode_errorBody (error : GatewayError) :
    ErrorMessage.codec.decode (errorBody error) = .ok ⟨error.message⟩ :=
  (ErrorMessage.readsBack (Json.maxDepth - 1) ⟨error.message⟩).decode

theorem failure_errorBody (error : GatewayError) (status : UInt16) :
    failure ⟨status, errorBody error⟩ = .status status error.message := by
  rw [failure, decode_errorBody]

/-- The body of an error is an envelope with nothing in it. -/
theorem reads_errorBody (output : Codec α) (depth : Nat) (error : GatewayError) :
    (Envelope.codec output).Reads (depth + 1) (.obj [("message", .str error.message)])
      ⟨none, none⟩ := by
  refine Envelope.reads_of_fields ⟨(none, none, ()), ?_, rfl⟩ rfl
  intro more _
  -- neither field is named so: the member is handed past both and skipped
  refine Reader.map_ok (none, ·) (Reader.map_ok (none, ·) ?_)
  show (Reader.colon >>= _) _ = _
  rw [Reader.bind_ok _ (Reader.colon_cons _)]
  exact Reader.skip_str error.message more

theorem decodeStream_errorBody (output : Codec α) (error : GatewayError) :
    decodeStream output ⟨200, errorBody error⟩ = .ok [] := by
  have hnext := Envelope.next_last (reads_errorBody output (Json.maxDepth - 1) error)
  have hstep : Envelope.reading output streamTurn [] (errorBody error) = .ok (.again [], []) :=
    Reader.bind_ok _ hnext
  have hpos : 0 < (errorBody error).length := Json.length_bytes_pos _
  have hruns := Reader.Runs.again hstep hpos (.done (reading_end ([] : List α)))
  rw [decodeStream_begun, streamStep_eq, Reader.loop_eq_of_runs hruns]

theorem decodeAll_errorBody (item : Codec α) (error : GatewayError) :
    Envelope.decodeAll item (errorBody error) = .ok [⟨none, none⟩] := by
  have hnext := Envelope.next_last (reads_errorBody item (Json.maxDepth - 1) error)
  have hstep : Envelope.reading item Envelope.keepTurn [] (errorBody error) =
      .ok (.again [⟨none, none⟩], []) := Reader.bind_ok _ hnext
  have hpos : 0 < (errorBody error).length := Json.length_bytes_pos _
  have hruns := Reader.Runs.again hstep hpos (.done rfl)
  rw [Envelope.decodeAll_eq, Reader.loop_eq_of_runs hruns]
  rfl

end ApiResponse

end RegionGateway
