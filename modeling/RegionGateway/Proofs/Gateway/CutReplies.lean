import RegionGateway.Proofs.Gateway.Delivery
import RegionGateway.Proofs.Gateway.ReplyParts

/-!
# Streamed replies that are cut off

The lines of a streamed reply are cut anywhere. What is left of a line is no envelope, since an
envelope knows where it ends (`Envelope.next_part`); the envelopes before it are read as always:

* `ApiResponse.decodeStream_line`: a line is read, and then what follows it;
* `ApiResponse.decodeStream_cut`: lines that are cut off are read as the envelopes that are whole;
* `sent`, `body_serveStream`: the envelopes that serving a stream writes.

Together: `cut_reply_never_misread`.
-/

namespace RegionGateway

variable {α τ : Type}

namespace Envelope

/-! ## Parts of an envelope -/

/-- A part of an envelope's text that is not all of it is a fault. -/
theorem next_part {item : Codec α} (hitem : item.Local) {form : Json} {envelope : Envelope α}
    (h : (codec item).Reads Json.maxDepth form envelope) {part rest : Bytes} (hpart : part ≠ [])
    (hrest : rest ≠ []) (hform : part ++ rest = form.bytes) :
    ∃ fault, next item part = .error fault := by
  cases hnext : next item part with
  | error fault => exact ⟨fault, rfl⟩
  | ok result =>
      obtain ⟨found, left⟩ := result
      cases found with
      | none =>
          -- the text begins with a byte that is no blank, and that byte is in the part
          obtain ⟨b, tail, hbytes, hblank, -⟩ := form.bytes_head
          obtain ⟨c, part, rfl⟩ := List.exists_cons_of_ne_nil hpart
          rw [hbytes, List.cons_append, List.cons.injEq] at hform
          rw [hform.1, next, Reader.bind_ok _ (Reader.peekToken_cons _ _ hblank rfl)] at hnext
          obtain ⟨_, middle, -, hsome⟩ := Reader.bind_eq_ok.mp hnext
          cases hsome
      | some found =>
          -- the whole text is read to its end, so the part would be too
          have hwhole := (next_eq_some hitem hnext).2 rest
          rw [hform, next_last h, Except.ok.injEq, Prod.mk.injEq] at hwhole
          exact absurd (List.append_eq_nil_iff.mp hwhole.2.symm).2 hrest

/-! ## Places in the text -/

/-- Where an envelope begins in the lines of several. -/
def offset (forms : List Json) (i : Nat) : Nat := (lines (forms.take i)).length

/-- An envelope is whole in the first so many bytes of the lines. -/
def Whole (forms : List Json) (n i : Nat) : Prop :=
  ∃ form, forms[i]? = some form ∧ offset forms i + form.bytes.length ≤ n

/-- The first so many bytes of the lines end strictly inside an envelope. -/
def Inside (forms : List Json) (n : Nat) : Prop :=
  ∃ i form, forms[i]? = some form ∧ offset forms i < n ∧ n < offset forms i + form.bytes.length

theorem offset_zero (forms : List Json) : offset forms 0 = 0 := rfl

theorem offset_succ (form : Json) (forms : List Json) (i : Nat) :
    offset (form :: forms) (i + 1) = form.bytes.length + 1 + offset forms i := by
  simp only [offset, lines, List.take_succ_cons, List.flatMap_cons, List.length_append,
    List.length_singleton]

/-- All lines together end behind the last envelope. -/
theorem not_inside_lines (forms : List Json) : ¬Inside forms (lines forms).length := by
  rintro ⟨i, form, hform, -, hmissing⟩
  obtain ⟨hi, rfl⟩ := List.getElem?_eq_some_iff.mp hform
  have hsplit : lines forms = lines (forms.take i) ++
      ((forms[i].bytes ++ [0x0A]) ++ lines (forms.drop (i + 1))) := by
    conv_lhs => rw [← List.take_append_drop i forms, lines_append, List.drop_eq_getElem_cons hi]
    rfl
  rw [hsplit, offset] at hmissing
  simp only [List.length_append] at hmissing
  omega

theorem not_inside_nil (n : Nat) : ¬Inside [] n := by
  rintro ⟨i, form, hform, -⟩
  cases hform

section

variable (form : Json) (forms : List Json) {n : Nat}

/-- The first envelope has not arrived, and no other one. -/
theorem not_whole (h : n < form.bytes.length) (i : Nat) : ¬Whole (form :: forms) n i := by
  rintro ⟨other, hother, hle⟩
  cases i with
  | zero =>
      cases hother
      rw [offset_zero] at hle
      omega
  | succ i =>
      rw [offset_succ] at hle
      omega

theorem inside_first (h : n < form.bytes.length) : Inside (form :: forms) n ↔ 0 < n := by
  constructor
  · rintro ⟨i, other, -, hbegun, -⟩
    omega
  · exact fun hpos => ⟨0, form, rfl, hpos, by rw [offset_zero]; omega⟩

/-! Behind the first envelope stands its newline, and then the others. -/

theorem whole_zero (h : form.bytes.length ≤ n) : Whole (form :: forms) n 0 :=
  ⟨form, rfl, by rw [offset_zero]; omega⟩

theorem whole_succ (i : Nat) :
    Whole (form :: forms) (form.bytes.length + 1 + n) (i + 1) ↔ Whole forms n i := by
  simp only [Whole, List.getElem?_cons_succ, offset_succ]
  exact exists_congr fun other => and_congr_right fun _ => by omega

theorem inside_succ (forms : List Json) :
    Inside (form :: forms) (form.bytes.length + 1 + n) ↔ Inside forms n := by
  constructor
  · rintro ⟨i, other, hother, hbegun, hmissing⟩
    cases i with
    | zero =>
        cases hother
        rw [offset_zero] at hmissing
        omega
    | succ i =>
        rw [offset_succ] at hbegun hmissing
        exact ⟨i, other, hother, by omega, by omega⟩
  · rintro ⟨i, other, hother, hbegun, hmissing⟩
    exact ⟨i + 1, other, hother, by rw [offset_succ]; omega, by rw [offset_succ]; omega⟩

end

/-- What a client gets from envelopes: the first failure, or the items. -/
def delivered : List (Envelope α) → Except ClientError (List α)
  | [] => .ok []
  | envelope :: rest =>
    match envelope.result.filter StreamResult.isFailure with
    | some result => .error (.stream result.code result.message)
    | none => (delivered rest).map (envelope.data.toList ++ ·)

theorem delivered_failure {envelope : Envelope α} {result : StreamResult}
    (h : envelope.result.filter StreamResult.isFailure = some result) (rest : List (Envelope α)) :
    delivered (envelope :: rest) = .error (.stream result.code result.message) := by
  rw [delivered, h]

theorem delivered_item {envelope : Envelope α}
    (h : envelope.result.filter StreamResult.isFailure = none) (rest : List (Envelope α)) :
    delivered (envelope :: rest) = (delivered rest).map (envelope.data.toList ++ ·) := by
  rw [delivered, h]

/-- Where items are delivered, they are those of the envelopes. -/
theorem delivered_eq_ok {envelopes : List (Envelope α)} {items : List α}
    (h : delivered envelopes = .ok items) : items = envelopes.flatMap (·.data.toList) := by
  induction envelopes generalizing items with
  | nil =>
      cases h
      rfl
  | cons envelope rest ih =>
      cases hresult : envelope.result.filter StreamResult.isFailure with
      | some result =>
          rw [delivered_failure hresult] at h
          cases h
      | none =>
          rw [delivered_item hresult] at h
          cases hrest : delivered rest with
          | error error =>
              rw [hrest] at h
              cases h
          | ok more =>
              rw [hrest] at h
              cases h
              rw [List.flatMap_cons, ← ih hrest]

/-- Where a failure is delivered, one of the envelopes reports it. -/
theorem delivered_eq_error {envelopes : List (Envelope α)} {error : ClientError}
    (h : delivered envelopes = .error error) :
    ∃ (i : Nat) (envelope : Envelope α) (result : StreamResult), envelopes[i]? = some envelope ∧
      envelope.result = some result ∧ error = .stream result.code result.message := by
  induction envelopes with
  | nil => cases h
  | cons envelope rest ih =>
      cases hresult : envelope.result.filter StreamResult.isFailure with
      | some result =>
          rw [delivered_failure hresult] at h
          cases h
          exact ⟨0, envelope, result, rfl, (Option.filter_eq_some_iff.mp hresult).1, rfl⟩
      | none =>
          rw [delivered_item hresult] at h
          cases hrest : delivered rest with
          | ok more =>
              rw [hrest] at h
              cases h
          | error other =>
              rw [hrest] at h
              cases h
              obtain ⟨i, envelope, result, hget, hfound⟩ := ih hrest
              exact ⟨i + 1, envelope, result, hget, hfound⟩

end Envelope

namespace ApiResponse

open Envelope Reader

variable {codec : Codec α} (hlocal : codec.Local)
include hlocal

/-! ## Replies that are cut off -/

omit hlocal in
theorem next_whole {form : Json} {envelope : Envelope α}
    (h : (Envelope.codec codec).Reads Json.maxDepth form envelope) {tail : Bytes}
    (htail : Delimited tail) : next codec (form.bytes ++ tail) = .ok (some envelope, tail) := by
  rw [next_form]
  exact map_ok some (h tail htail)

omit hlocal in
/-- A failure is reported whatever follows it. -/
theorem decodeStream_failure {form : Json} {envelope : Envelope α} {result : StreamResult}
    (h : (Envelope.codec codec).Reads Json.maxDepth form envelope)
    (hresult : envelope.result.filter StreamResult.isFailure = some result) {tail : Bytes}
    (htail : Delimited tail) :
    decodeStream codec ⟨200, form.bytes ++ tail⟩ = .error (.stream result.code result.message) := by
  have hturn : streamTurn ([] : List α) (some envelope) = .done (.error result) := by
    simp only [streamTurn, hresult]
  exact decodeStream_of_runs (.done (reading_eq_ok.mpr ⟨_, next_whole h htail, hturn⟩))

/-- Another envelope is read, and then what follows it. -/
theorem decodeStream_item {form : Json} {envelope : Envelope α}
    (h : (Envelope.codec codec).Reads Json.maxDepth form envelope)
    (hresult : envelope.result.filter StreamResult.isFailure = none) {tail : Bytes}
    (htail : Delimited tail) : decodeStream codec ⟨200, form.bytes ++ tail⟩ =
      (decodeStream codec ⟨200, tail⟩).map (envelope.data.toList ++ ·) := by
  obtain ⟨out, hruns⟩ := exists_runs hlocal ([] : List α) tail
  have hturn : streamTurn ([] : List α) (some envelope) =
      .again ([] ++ envelope.data.toList.reverse) := by
    cases hdata : envelope.data <;> simp only [streamTurn, hresult, hdata] <;> rfl
  have hless : tail.length < (form.bytes ++ tail).length := by
    have := form.length_bytes_pos
    rw [List.length_append]
    omega
  rw [decodeStream_of_runs hruns, decodeStream_of_runs (.again
    (reading_eq_ok.mpr ⟨_, next_whole h htail, hturn⟩) hless (runs_behind _ hruns))]
  rcases out with fault | ⟨result | items, left⟩ <;> rfl

theorem decodeStream_newline (rest : Bytes) :
    decodeStream codec ⟨200, 0x0A :: rest⟩ = decodeStream codec ⟨200, rest⟩ := by
  obtain ⟨out, hruns⟩ := exists_runs hlocal ([] : List α) rest
  rw [decodeStream_of_runs hruns, decodeStream_of_runs (runs_newline hruns)]

omit hlocal in
theorem decodeStream_nil : decodeStream codec ⟨200, []⟩ = .ok [] :=
  decodeStream_of_runs (.done (reading_end ([] : List α)))

/-- An envelope that is not whole is a fault. -/
theorem decodeStream_part {form : Json} {envelope : Envelope α}
    (h : (Envelope.codec codec).Reads Json.maxDepth form envelope) {part rest : Bytes}
    (hpart : part ≠ []) (hrest : rest ≠ []) (hform : part ++ rest = form.bytes) :
    ∃ reason, decodeStream codec ⟨200, part⟩ = .error (.decode reason) := by
  obtain ⟨fault, hnext⟩ := next_part hlocal h hpart hrest hform
  exact ⟨fault.message, decodeStream_of_runs (.stop (reading_eq_error.mpr hnext))⟩

/-- The lines are decoded as the envelopes that are whole in a part of them, unless the part ends strictly
inside another one. -/
def DecodesCut (codec : Codec α) (forms : List Json) (envelopes : List (Envelope α)) (part : Bytes) :
    Prop :=
  ∃ k, (∀ i, Whole forms part.length i ↔ i < k) ∧
    (Inside forms part.length → ∃ reason, decodeStream codec ⟨200, part⟩ = .error (.decode reason)) ∧
    (¬Inside forms part.length → decodeStream codec ⟨200, part⟩ = delivered (envelopes.take k))

section

variable {form : Json} {envelope : Envelope α}
  (h : (Envelope.codec codec).Reads Json.maxDepth form envelope)
include h

/-- The part ends before the end of the first envelope. -/
theorem decodesCut_part (forms : List Json) (envelopes : List (Envelope α)) {part missing : Bytes}
    (hmissing : missing ≠ []) (hform : part ++ missing = form.bytes) :
    DecodesCut codec (form :: forms) envelopes part := by
  have hless : part.length < form.bytes.length := by
    have := List.length_pos_of_ne_nil hmissing
    rw [← hform, List.length_append]
    omega
  refine ⟨0, fun i => iff_of_false (not_whole form forms hless i) (Nat.not_lt_zero i), ?_, ?_⟩
  · intro hinside
    have hpos := (inside_first form forms hless).mp hinside
    exact decodeStream_part hlocal h (List.ne_nil_of_length_pos hpos) hmissing hform
  · intro hbetween
    rw [inside_first form forms hless, Nat.not_lt, Nat.le_zero, List.length_eq_zero_iff] at hbetween
    rw [hbetween]
    exact decodeStream_nil

/-- The part ends with the first envelope, before the newline. -/
theorem decodesCut_whole (forms : List Json) (envelopes : List (Envelope α)) :
    DecodesCut codec (form :: forms) (envelope :: envelopes) form.bytes := by
  have hbefore : ∀ i, form.bytes.length < offset (form :: forms) (i + 1) := by
    intro i
    rw [offset_succ]
    omega
  refine ⟨1, fun i => ?_, fun hinside => ?_, fun _ => ?_⟩
  · cases i with
    | zero => exact iff_of_true (whole_zero form forms (Nat.le_refl _)) Nat.one_pos
    | succ i =>
        refine iff_of_false ?_ (by omega)
        rintro ⟨other, -, hle⟩
        have := hbefore i
        omega
  · obtain ⟨i, other, hother, hbegun, hmissing⟩ := hinside
    cases i with
    | zero =>
        cases hother
        rw [offset_zero] at hmissing
        omega
    | succ i =>
        have := hbefore i
        omega
  · have hbytes : form.bytes = form.bytes ++ [] := (List.append_nil _).symm
    rw [List.take_succ_cons, List.take_zero, hbytes]
    cases hresult : envelope.result.filter StreamResult.isFailure with
    | some result => rw [decodeStream_failure h hresult .nil, delivered_failure hresult]
    | none => rw [decodeStream_item hlocal h hresult .nil, delivered_item hresult, decodeStream_nil]; rfl

/-- The part goes on behind the newline of the first envelope, which is the last one if it reports a
failure. -/
theorem decodesCut_later {forms : List Json} {envelopes : List (Envelope α)} {later : Bytes}
    (hlast : forms ≠ [] → envelope.result.filter StreamResult.isFailure = none)
    (hlater : DecodesCut codec forms envelopes later) :
    DecodesCut codec (form :: forms) (envelope :: envelopes) (form.bytes ++ 0x0A :: later) := by
  have hlength : (form.bytes ++ 0x0A :: later).length = form.bytes.length + 1 + later.length := by
    rw [List.length_append, List.length_cons]
    omega
  have htail : Delimited (0x0A :: later) := .blank (by decide) later
  obtain ⟨k, hwhole, hinside, hbetween⟩ := hlater
  unfold DecodesCut
  rw [hlength, inside_succ]
  refine ⟨k + 1, fun i => ?_, fun hin => ?_, fun hnot => ?_⟩
  · cases i with
    | zero => exact iff_of_true (whole_zero form forms (by omega)) (Nat.succ_pos k)
    | succ i => rw [whole_succ, hwhole, Nat.succ_lt_succ_iff]
  · have hforms : forms ≠ [] := by
      rintro rfl
      exact not_inside_nil _ hin
    obtain ⟨reason, hreason⟩ := hinside hin
    rw [decodeStream_item hlocal h (hlast hforms) htail, decodeStream_newline hlocal, hreason]
    exact ⟨reason, rfl⟩
  · rw [List.take_succ_cons]
    cases hresult : envelope.result.filter StreamResult.isFailure with
    | some result => rw [decodeStream_failure h hresult htail, delivered_failure hresult]
    | none =>
        rw [decodeStream_item hlocal h hresult htail, decodeStream_newline hlocal, hbetween hnot,
          delivered_item hresult]

end

omit hlocal in
/-- Where a part of lines ends. -/
theorem prefix_lines_cons {form : Json} {forms : List Json} {part : Bytes}
    (h : part <+: lines (form :: forms)) :
    (∃ missing, missing ≠ [] ∧ part ++ missing = form.bytes) ∨ part = form.bytes ∨
      ∃ later, part = form.bytes ++ 0x0A :: later ∧ later <+: lines forms := by
  obtain ⟨rest, hrest⟩ := h
  have hlines : lines (form :: forms) = form.bytes ++ 0x0A :: lines forms := by simp [lines]
  rw [hlines, List.append_eq_append_iff] at hrest
  rcases hrest with ⟨missing, hform, -⟩ | ⟨tail, rfl, htail⟩
  · by_cases hmissing : missing = []
    · rw [hmissing, List.append_nil] at hform
      exact .inr (.inl hform.symm)
    · exact .inl ⟨missing, hmissing, hform.symm⟩
  · cases tail with
    | nil => exact .inr (.inl (List.append_nil _))
    | cons b later =>
        rw [List.cons_append, List.cons.injEq] at htail
        obtain ⟨rfl, hlater⟩ := htail
        exact .inr (.inr ⟨later, rfl, rest, hlater.symm⟩)

/-- What is left of the lines of envelopes, of which only the last may report a failure, is decoded as
the envelopes that are whole. -/
theorem decodeStream_cut {forms : List Json} {envelopes : List (Envelope α)}
    (hreads : List.Forall₂ ((Envelope.codec codec).Reads Json.maxDepth) forms envelopes)
    (hfailure : ∀ envelope ∈ envelopes.dropLast, envelope.result.filter StreamResult.isFailure = none)
    {part : Bytes} (hpart : part <+: lines forms) : DecodesCut codec forms envelopes part := by
  induction hreads generalizing part with
  | nil =>
      obtain rfl := List.prefix_nil.mp hpart
      refine ⟨0, fun i => ?_, fun h => absurd h (not_inside_nil 0), fun _ => decodeStream_nil⟩
      exact iff_of_false (by rintro ⟨form, ⟨⟩, -⟩) (Nat.not_lt_zero i)
  | @cons form envelope forms envelopes hform hforms ih =>
      rcases prefix_lines_cons hpart with ⟨missing, hmissing, hpart⟩ | rfl | ⟨later, rfl, hlater⟩
      · exact decodesCut_part hlocal hform forms _ hmissing hpart
      · exact decodesCut_whole hlocal hform forms envelopes
      · have hdrop : envelopes ≠ [] → (envelope :: envelopes).dropLast = envelope :: envelopes.dropLast :=
          List.dropLast_cons_of_ne_nil
        have hlast : forms ≠ [] → envelope.result.filter StreamResult.isFailure = none := by
          intro hne
          refine hfailure envelope ?_
          rw [hdrop (by rintro rfl; cases hforms; exact hne rfl)]
          exact List.mem_cons_self
        refine decodesCut_later hlocal hform hlast (ih (fun other hother => hfailure other ?_) hlater)
        rw [hdrop (by rintro rfl; cases hother)]
        exact List.mem_cons_of_mem _ hother

end ApiResponse

/-! ## What serving a stream writes -/

/-- The items that a stream comes to and the failure that ends it; one that could not be opened comes to
its failure alone. -/
def allowed (filter : α → StateM τ Bool) (state : τ) :
    Except GatewayError (List (StreamItem α)) → List α × Option GatewayError
  | .error error => ([], some error)
  | .ok stream => (sift filter stream state).1

/-- The envelopes of the reply to a stream. A failure before the first item is handed back and has
none. -/
def Envelope.ofStream : List α × Option GatewayError → List (Envelope α)
  | ([], _) => []
  | (item :: rest, failure) => (item :: rest).map (fun item => ⟨some item, none⟩) ++
      failure.toList.map fun error => ⟨none, some ⟨error.message, error.status⟩⟩

/-- The response to a stream that is served into a fresh one. -/
def servedResponse (codec : Codec α) (filter : α → StateM τ Bool) (state : τ)
    (opened : Except GatewayError (List (StreamItem α))) : RecordedResponse :=
  (serveStream RecordedResponse.sinkBeside (fun item => .ok (codec.write item)) (filterBeside filter)
    opened (.empty, state)).2.1

namespace Envelope

theorem mem_ofStream {items : List α} {failure : Option GatewayError} {envelope : Envelope α}
    (h : envelope ∈ ofStream (items, failure)) : (∃ item ∈ items, envelope = ⟨some item, none⟩) ∨
      ∃ error, failure = some error ∧ envelope = ⟨none, some ⟨error.message, error.status⟩⟩ := by
  cases items with
  | nil => cases h
  | cons item rest =>
      rcases List.mem_append.mp h with h | h
      · obtain ⟨other, hother, rfl⟩ := List.mem_map.mp h
        exact .inl ⟨other, hother, rfl⟩
      · obtain ⟨error, herror, rfl⟩ := List.mem_map.mp h
        exact .inr ⟨error, Option.mem_toList.mp herror, rfl⟩

/-- Only the last envelope reports a failure. -/
theorem result_of_mem_dropLast {items : List α} {failure : Option GatewayError} {envelope : Envelope α}
    (h : envelope ∈ (ofStream (items, failure)).dropLast) : envelope.result = none := by
  cases items with
  | nil => cases h
  | cons item rest =>
      have hdata : envelope ∈ (item :: rest).map fun item => (⟨some item, none⟩ : Envelope α) := by
        cases failure with
        | none =>
            rw [ofStream, Option.toList_none, List.map_nil, List.append_nil] at h
            exact (List.dropLast_sublist _).subset h
        | some error =>
            rw [ofStream, Option.toList_some, List.map_singleton, List.dropLast_concat] at h
            exact h
      obtain ⟨other, -, rfl⟩ := List.mem_map.mp hdata
      rfl

theorem data_ofStream (items : List α) (failure : Option GatewayError) :
    (ofStream (items, failure)).flatMap (·.data.toList) = items := by
  cases items with
  | nil => rfl
  | cons item rest =>
      rw [ofStream, List.flatMap_append, List.flatMap_map, List.flatMap_map]
      simp

end Envelope

theorem Envelope.write_item (codec : Codec α) (item : α) :
    (Envelope.codec codec).write ⟨some item, none⟩ = dataForm (codec.write item) := rfl

theorem Envelope.write_failure (codec : Codec α) (error : GatewayError) :
    (Envelope.codec codec).write ⟨none, some ⟨error.message, error.status⟩⟩ = resultForm error := rfl

theorem body_servedResponse (codec : Codec α) (filter : α → StateM τ Bool) (state : τ)
    (opened : Except GatewayError (List (StreamItem α))) :
    (servedResponse codec filter state opened).body = Envelope.lines
      ((Envelope.ofStream (allowed filter state opened)).map (Envelope.codec codec).write) := by
  cases opened with
  | error error => rfl
  | ok stream =>
      obtain ⟨left, hserved⟩ := serveStream_empty (filterBeside_beside filter)
        (fun item => .ok (codec.write item)) RecordedResponse.sinkBeside_records stream state
      rw [servedResponse, hserved, allowed]
      rcases (sift filter stream state).1 with ⟨_ | ⟨item, rest⟩, failure⟩
      · cases failure <;> rfl
      · simp only [streamed, written_total, Envelope.ofStream, RecordedResponse.begun, List.map_append,
          List.map_map, Function.comp_def, Envelope.write_item, Envelope.write_failure]

/-! ## The theorem -/

section

variable {codec : Codec α} (hobject : ∀ item, ∃ members, codec.write item = .obj members)
  (hreads : ∀ item, codec.ReadsBack (Json.maxDepth - 1) item)
include hobject hreads

/-- The envelopes of a reply are read back. -/
theorem reads_ofStream (items : List α) (failure : Option GatewayError) :
    List.Forall₂ ((Envelope.codec codec).Reads Json.maxDepth)
      ((Envelope.ofStream (items, failure)).map (Envelope.codec codec).write)
      (Envelope.ofStream (items, failure)) := by
  rw [List.forall₂_map_left_iff, List.forall₂_same]
  intro envelope henvelope
  rcases Envelope.mem_ofStream henvelope with ⟨item, -, rfl⟩ | ⟨error, -, rfl⟩
  · obtain ⟨members, hmembers⟩ := hobject item
    have hne : codec.write item ≠ .null := by
      rw [hmembers]
      intro h
      cases h
    exact Envelope.reads_data (Codec.option_reads (hreads item) hne)
  · exact Envelope.reads_result codec (Json.maxDepth - 2) error

/-- **A reply that is cut off is never misread.** The body that serving a stream writes into a fresh
response is cut off anywhere. If it ends strictly inside an envelope, the client fails to decode it;
else the client gets what the envelopes that are whole come to. So it gets items that were sent, in
order and none left out in front of them, and it reports a failure only if that ended the stream and
its envelope is whole. One bracket of the reply is the envelope's, so items are read back with one
bracket less; they are read as the reader hands them the input (`Codec.Local`). -/
theorem cut_reply_never_misread (hlocal : codec.Local) (filter : α → StateM τ Bool) (state : τ)
    (opened : Except GatewayError (List (StreamItem α))) {part : Bytes}
    (hpart : part <+: (servedResponse codec filter state opened).body) :
    let sent := Envelope.ofStream (allowed filter state opened)
    let forms := sent.map (Envelope.codec codec).write
    (∃ k, (∀ i, Envelope.Whole forms part.length i ↔ i < k) ∧
      (Envelope.Inside forms part.length →
        ∃ reason, ApiResponse.decodeStream codec ⟨200, part⟩ = .error (.decode reason)) ∧
      (¬Envelope.Inside forms part.length →
        ApiResponse.decodeStream codec ⟨200, part⟩ = Envelope.delivered (sent.take k))) ∧
    (∀ items, ApiResponse.decodeStream codec ⟨200, part⟩ = .ok items →
      items <+: (allowed filter state opened).1) ∧
    (∀ code message, ApiResponse.decodeStream codec ⟨200, part⟩ = .error (.stream code message) →
      ∃ error i, (allowed filter state opened).2 = some error ∧ error.status = code ∧
        error.message = message ∧ sent[i]? = some ⟨none, some ⟨message, code⟩⟩ ∧
        Envelope.Whole forms part.length i) := by
  intro sent forms
  rw [body_servedResponse] at hpart
  have hread : List.Forall₂ ((Envelope.codec codec).Reads Json.maxDepth) forms sent :=
    reads_ofStream hobject hreads _ _
  have hfailure : ∀ envelope ∈ sent.dropLast,
      envelope.result.filter StreamResult.isFailure = none := by
    intro envelope henvelope
    rw [Envelope.result_of_mem_dropLast henvelope]
    rfl
  have hcut := ApiResponse.decodeStream_cut hlocal hread hfailure hpart
  refine ⟨hcut, ?_⟩
  obtain ⟨k, hwhole, hinside, hbetween⟩ := hcut
  -- what is no fault of decoding comes from the envelopes that are whole
  have hdelivered : ∀ outcome, ApiResponse.decodeStream codec ⟨200, part⟩ = outcome →
      (∀ reason, outcome ≠ .error (.decode reason)) → Envelope.delivered (sent.take k) = outcome := by
    intro outcome hdecoded hnot
    rw [← hbetween fun hin => ?_, hdecoded]
    obtain ⟨reason, hreason⟩ := hinside hin
    exact hnot reason (hdecoded.symm.trans hreason)
  constructor
  · intro items hdecoded
    have hitems := Envelope.delivered_eq_ok (hdelivered _ hdecoded (by rintro reason ⟨⟩))
    have hall : sent.flatMap (·.data.toList) = (allowed filter state opened).1 :=
      Envelope.data_ofStream _ _
    rw [hitems, ← hall]
    conv_rhs => rw [← List.take_append_drop k sent, List.flatMap_append]
    exact List.prefix_append _ _
  · intro code message hdecoded
    obtain ⟨i, envelope, result, hget, hresult, herror⟩ :=
      Envelope.delivered_eq_error (hdelivered _ hdecoded (by rintro reason ⟨⟩))
    cases herror
    rw [List.getElem?_take] at hget
    obtain ⟨hless, hget⟩ : i < k ∧ sent[i]? = some envelope := by
      split at hget
      next hless => exact ⟨hless, hget⟩
      next => cases hget
    rcases Envelope.mem_ofStream (List.mem_of_getElem? hget) with
      ⟨item, -, rfl⟩ | ⟨error, hfailed, rfl⟩
    · cases hresult
    · cases hresult
      exact ⟨error, i, hfailed, rfl, rfl, hget, (hwhole i).mpr hless⟩

end

/-- The first of two messages is sent and a failure follows it. Cut off within the two bytes of a
character, the reply is refused; cut off anywhere, it gives nothing but the first message, and no
failure but the one that was written. -/
theorem cut_reply_never_misread_messages :
    let body := (servedResponse ErrorMessage.codec (fun _ n => (n == 0, n + 1)) (0 : Nat)
      (.ok [.ok ⟨"é"⟩, .ok ⟨"e"⟩, .error (.backend "gone" 409)])).body
    (∃ reason, ApiResponse.decodeStream ErrorMessage.codec ⟨200, body.take 21⟩ =
      .error (.decode reason)) ∧
    (∀ n items, ApiResponse.decodeStream ErrorMessage.codec ⟨200, body.take n⟩ = .ok items →
      items <+: [⟨"é"⟩]) ∧
    ∀ n code message, ApiResponse.decodeStream ErrorMessage.codec ⟨200, body.take n⟩ =
      .error (.stream code message) → code = 409 ∧ message = "gone" := by
  have hobject : ∀ item, ∃ members, ErrorMessage.codec.write item = .obj members :=
    fun _ => ⟨_, rfl⟩
  have hreads : ∀ item, ErrorMessage.codec.ReadsBack (Json.maxDepth - 1) item :=
    ErrorMessage.readsBack (Json.maxDepth - 2)
  have hlocal : ErrorMessage.codec.Local := by
    refine Codec.local_record ?_ _ _ _
    exact ⟨Codec.local_text, trivial⟩
  intro body
  have hcut := fun n => cut_reply_never_misread hobject hreads hlocal (fun _ n => (n == 0, n + 1))
    (0 : Nat) (.ok [.ok ⟨"é"⟩, .ok ⟨"e"⟩, .error (.backend "gone" 409)]) (List.take_prefix n body)
  refine ⟨?_, fun n => (hcut n).2.1, fun n code message hdecoded => ?_⟩
  · obtain ⟨⟨k, -, hinside, -⟩, -⟩ := hcut 21
    exact hinside ⟨0, _, rfl, by decide +kernel, by decide +kernel⟩
  · obtain ⟨error, i, hfailure, rfl, rfl, -⟩ := (hcut n).2.2 code message hdecoded
    cases hfailure
    exact ⟨rfl, rfl⟩

/-- A message that uses every bracket is an object, decoding undoes its encoding and its reader sees one
byte behind it at most, but the whole reply with it is not decoded. -/
theorem deep_reply_not_delivered :
    (∀ message, ∃ members, (deepMessage 126).write message = .obj members) ∧
    (∀ message, (deepMessage 126).decode ((deepMessage 126).write message).bytes = .ok message) ∧
    (deepMessage 126).Local ∧
    let opened : Except GatewayError (List (StreamItem Unit)) := .ok [.ok ()]
    let sent := Envelope.ofStream (allowed (fun _ => return true : Unit → StateM Unit Bool) () opened)
    let body := (servedResponse (deepMessage 126) (fun _ => return true) () opened).body
    ¬Envelope.Inside (sent.map (Envelope.codec (deepMessage 126)).write) body.length ∧
    Envelope.delivered sent = .ok [()] ∧
    ∃ reason, ApiResponse.decodeStream (deepMessage 126) ⟨200, body⟩ = .error (.decode reason) := by
  refine ⟨fun _ => nested_object 126, fun _ => (deepMessage_reads (by decide)).decode, fun depth =>
    Reader.local_bind (Codec.local_any depth) fun _ => Reader.local_pure _, ?_⟩
  intro opened sent body
  have hbody : body = Envelope.lines (sent.map (Envelope.codec (deepMessage 126)).write) :=
    body_servedResponse _ _ _ _
  rw [hbody]
  exact ⟨Envelope.not_inside_lines _, rfl, decodeStream_nested (by decide)⟩

end RegionGateway
