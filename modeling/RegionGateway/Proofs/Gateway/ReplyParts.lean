import RegionGateway.Proofs.Gateway.Envelopes
import RegionGateway.Proofs.Widgets.Messages

/-!
# Streamed replies in two parts

An envelope is a record, so where it ends does not depend on what follows it (`Envelope.next_eq_some`),
and between envelopes there are only blanks (`Envelope.next_eq_none`). So a reader of envelopes goes
over the first part of a reply as if it were all, and over the second as if it stood alone:

* `ApiResponse.runs_append_items`: what follows a part without failure is read on from its items;
* `ApiResponse.runs_append_failure`: what follows a failure is not read;
* `ApiResponse.runs_behind`: items that were read before stand before those read later.

Together: `ApiResponse.decodeStream_append`.
-/

namespace RegionGateway

variable {α β σ : Type}

theorem StreamResult.local_codec : StreamResult.codec.Local := by
  refine Codec.local_record ?_ _ _ _
  exact ⟨Codec.local_text, Codec.local_u16, trivial⟩

namespace Envelope

section

variable {item : Codec α} (hitem : item.Local)
include hitem

theorem local_fields : (fields item).Local :=
  ⟨Codec.local_option hitem, Codec.local_option StreamResult.local_codec, trivial⟩

/-- What follows an envelope does not matter to it. -/
theorem next_eq_some {input rest : Bytes} {envelope : Envelope α}
    (h : next item input = .ok (some envelope, rest)) :
    rest.length < input.length ∧ ∀ more, next item (input ++ more) = .ok (some envelope, rest ++ more) := by
  cases hstripped : input.dropWhile Reader.isBlank with
  | nil =>
      rw [next, Reader.bind_ok _ (Json.peekToken_nil hstripped)] at h
      cases h
  | cons b tail =>
      have hpeek := Reader.peekToken_stripped hstripped
      rw [next, Reader.bind_ok _ hpeek] at h
      obtain ⟨_, middle, hread, hsome⟩ := Reader.bind_eq_ok.mp h
      cases hsome
      have hless := Codec.record_takes (local_fields hitem) _ _ _ hread
      have hends := (Codec.delimits_record (local_fields hitem) _ _ _ _ _ _ _ hread).2
      refine ⟨Nat.lt_of_lt_of_le hless ?_, fun more => ?_⟩
      · rw [← hstripped]
        exact (List.dropWhile_suffix _).length_le
      · have hne : input.dropWhile Reader.isBlank ≠ [] := by
          rw [hstripped]
          exact List.cons_ne_nil b tail
        have hgrown : (input ++ more).dropWhile Reader.isBlank = b :: (tail ++ more) := by
          rw [Reader.dropWhile_append hne, hstripped, List.cons_append]
        rw [next, Reader.bind_ok _ (Reader.peekToken_stripped hgrown)]
        exact Reader.map_ok some (hends more)

omit hitem in
/-- Where there is no other envelope, there are only blanks. -/
theorem next_eq_none {input rest : Bytes} (h : next item input = .ok (none, rest)) (more : Bytes) :
    next item (input ++ more) = next item more := by
  cases hstripped : input.dropWhile Reader.isBlank with
  | nil => exact Reader.bind_congr _ (Reader.peekToken_blanks (List.dropWhile_eq_nil_iff.mp hstripped) more)
  | cons b tail =>
      rw [next, Reader.bind_ok _ (Reader.peekToken_stripped hstripped)] at h
      obtain ⟨_, middle, -, hsome⟩ := Reader.bind_eq_ok.mp h
      cases hsome

end

theorem reading_eq_ok {item : Codec α} {turn : σ → Option (Envelope α) → Turn σ β} {state : σ}
    {input rest : Bytes} {taken : Turn σ β} :
    reading item turn state input = .ok (taken, rest) ↔
      ∃ envelope, next item input = .ok (envelope, rest) ∧ turn state envelope = taken := by
  constructor
  · intro h
    obtain ⟨envelope, middle, hnext, hturn⟩ := Reader.bind_eq_ok.mp h
    cases hturn
    exact ⟨envelope, hnext, rfl⟩
  · rintro ⟨envelope, hnext, rfl⟩
    exact Reader.bind_ok _ hnext

theorem reading_eq_error {item : Codec α} {turn : σ → Option (Envelope α) → Turn σ β} {state : σ}
    {input : Bytes} {fault : Fault} :
    reading item turn state input = .error fault ↔ next item input = .error fault := by
  cases hnext : next item input with
  | error other => rw [reading, Reader.bind_error _ hnext]; exact Iff.of_eq (by simp)
  | ok result =>
      obtain ⟨envelope, rest⟩ := result
      rw [reading, Reader.bind_ok _ hnext]
      constructor <;> rintro ⟨⟩

end Envelope

namespace ApiResponse

open Envelope Reader

/-! ## Turns -/

theorem streamTurn_again {items after : List α} {envelope : Option (Envelope α)}
    (h : streamTurn items envelope = .again after) :
    ∃ given, envelope = some given ∧ after = given.data.toList ++ items ∧
      ∀ others, streamTurn others envelope = .again (given.data.toList ++ others) := by
  cases envelope with
  | none => cases h
  | some given =>
      cases hresult : given.result.filter StreamResult.isFailure with
      | none =>
          simp only [streamTurn, hresult] at h ⊢
          cases h
          exact ⟨given, rfl, rfl, fun _ => rfl⟩
      | some result =>
          simp only [streamTurn, hresult] at h
          cases h

theorem streamTurn_items {items list : List α} {envelope : Option (Envelope α)}
    (h : streamTurn items envelope = .done (.ok list)) : envelope = none ∧ list = items.reverse := by
  cases envelope with
  | none =>
      cases h
      exact ⟨rfl, rfl⟩
  | some given =>
      unfold streamTurn at h
      dsimp only at h
      split at h <;> cases h

theorem streamTurn_failure {items : List α} {result : StreamResult} {envelope : Option (Envelope α)}
    (h : streamTurn items envelope = .done (.error result)) :
    (∃ given, envelope = some given) ∧ ∀ others : List α, streamTurn others envelope = .done (.error result) := by
  cases envelope with
  | none => cases h
  | some given =>
      cases hresult : given.result.filter StreamResult.isFailure with
      | none =>
          simp only [streamTurn, hresult] at h
          cases h
      | some found =>
          simp only [streamTurn, hresult] at h ⊢
          cases h
          exact ⟨⟨given, rfl⟩, fun _ => rfl⟩

/-! ## Runs -/

section

variable {output : Codec α} (houtput : output.Local)
include houtput

/-- Envelopes are read to the end, to a failure or to a fault. -/
theorem exists_runs (items : List α) (input : Bytes) :
    ∃ out, Runs (reading output streamTurn) items input out := by
  induction hlength : input.length using Nat.strongRecOn generalizing items input with
  | _ n ih =>
      cases hstep : reading output streamTurn items input with
      | error fault => exact ⟨_, .stop hstep⟩
      | ok result =>
          obtain ⟨turn, rest⟩ := result
          cases turn with
          | done result => exact ⟨_, .done hstep⟩
          | again after =>
              obtain ⟨envelope, hnext, hturn⟩ := reading_eq_ok.mp hstep
              obtain ⟨given, rfl, -⟩ := streamTurn_again hturn
              have hless := (next_eq_some houtput hnext).1
              obtain ⟨out, hruns⟩ := ih rest.length (hlength ▸ hless) after rest rfl
              exact ⟨out, .again hstep hless hruns⟩

/-- A turn that goes on does so whatever follows. -/
theorem runs_again_append {items after : List α} {a b middle : Bytes}
    {out : Except Fault (Except StreamResult (List α) × Bytes)}
    (hstep : reading output streamTurn items a = .ok (.again after, middle)) (hless : middle.length < a.length)
    (hruns : Runs (reading output streamTurn) after (middle ++ b) out) :
    Runs (reading output streamTurn) items (a ++ b) out := by
  obtain ⟨envelope, hnext, hturn⟩ := reading_eq_ok.mp hstep
  obtain ⟨given, rfl, -⟩ := streamTurn_again hturn
  refine .again (reading_eq_ok.mpr ⟨_, (next_eq_some houtput hnext).2 b, hturn⟩) ?_ hruns
  rw [List.length_append, List.length_append]
  omega

/-- A part without failure is read, and then what follows it. -/
theorem runs_append_items {items list : List α} {a b rest : Bytes}
    {out : Except Fault (Except StreamResult (List α) × Bytes)}
    (ha : Runs (reading output streamTurn) items a (.ok (.ok list, rest)))
    (hb : Runs (reading output streamTurn) list.reverse b out) :
    Runs (reading output streamTurn) items (a ++ b) out := by
  generalize hend : Except.ok (Except.ok list, rest) = end' at ha
  induction ha with
  | again hstep hless _ ih => exact runs_again_append houtput hstep hless (ih hend)
  | @done state input result left hstep =>
      cases hend
      obtain ⟨envelope, hnext, hturn⟩ := reading_eq_ok.mp hstep
      obtain ⟨rfl, rfl⟩ := streamTurn_items hturn
      -- the first part ends here, so the turn is the first one on the second part
      rw [List.reverse_reverse] at hb
      have hsame : reading output streamTurn state (input ++ b) = reading output streamTurn state b :=
        bind_congr _ (next_eq_none hnext b)
      cases hb with
      | again hfirst hless hruns =>
          refine .again (hsame.trans hfirst) ?_ hruns
          rw [List.length_append]
          omega
      | done hfirst => exact .done (hsame.trans hfirst)
      | stop hfirst => exact .stop (hsame.trans hfirst)
  | stop _ => cases hend

/-- What follows a failure is not read. -/
theorem runs_append_failure {items : List α} {result : StreamResult} {a rest : Bytes}
    (ha : Runs (reading output streamTurn) items a (.ok (.error result, rest))) (b : Bytes) :
    Runs (reading output streamTurn) items (a ++ b) (.ok (.error result, rest ++ b)) := by
  generalize hend : Except.ok (Except.error result, rest) = end' at ha
  induction ha with
  | again hstep hless _ ih => exact runs_again_append houtput hstep hless (ih hend)
  | done hstep =>
      cases hend
      obtain ⟨envelope, hnext, hturn⟩ := reading_eq_ok.mp hstep
      obtain ⟨given, rfl⟩ := (streamTurn_failure hturn).1
      exact .done (reading_eq_ok.mpr ⟨_, (next_eq_some houtput hnext).2 b, hturn⟩)
  | stop _ => cases hend

omit houtput in
/-- Items that were read before stand before those that are read now. -/
theorem runs_behind (before : List α) {items : List α} {b : Bytes}
    {out : Except Fault (Except StreamResult (List α) × Bytes)}
    (h : Runs (reading output streamTurn) items b out) :
    Runs (reading output streamTurn) (items ++ before.reverse) b
      (out.map fun end' => (end'.1.map (before ++ ·), end'.2)) := by
  induction h with
  | again hstep hless _ ih =>
      obtain ⟨envelope, hnext, hturn⟩ := reading_eq_ok.mp hstep
      obtain ⟨given, -, rfl, hothers⟩ := streamTurn_again hturn
      rw [List.append_assoc] at ih
      exact .again (reading_eq_ok.mpr ⟨envelope, hnext, hothers _⟩) hless ih
  | @done state input result rest hstep =>
      obtain ⟨envelope, hnext, hturn⟩ := reading_eq_ok.mp hstep
      refine .done (reading_eq_ok.mpr ⟨envelope, hnext, ?_⟩)
      cases result with
      | ok list =>
          obtain ⟨rfl, rfl⟩ := streamTurn_items hturn
          simp [streamTurn, Except.map]
      | error found => exact (streamTurn_failure hturn).2 _
  | stop hstep => exact .stop (reading_eq_error.mpr (reading_eq_error.mp hstep))

end

/-! ## Replies -/

variable {output : Codec α}

/-- What a call gives when the envelopes of its reply have been read so. -/
def outcome : Except Fault (Except StreamResult (List α) × Bytes) → Except ClientError (List α)
  | .error fault => .error (.decode fault.message)
  | .ok (.error result, _) => .error (.stream result.code result.message)
  | .ok (.ok items, _) => .ok items

theorem decodeStream_of_runs {body : Bytes} {out : Except Fault (Except StreamResult (List α) × Bytes)}
    (h : Runs (reading output streamTurn) [] body out) :
    decodeStream output ⟨200, body⟩ = outcome out := by
  rw [decodeStream_begun, streamStep_eq, loop_eq_of_runs h]
  rfl

/-- Items that are read behind others. -/
theorem decodeStream_append_items (h : output.Local) {a b rest : Bytes} {items : List α}
    {out : Except Fault (Except StreamResult (List α) × Bytes)}
    (ha : Runs (reading output streamTurn) [] a (.ok (.ok items, rest)))
    (hb : Runs (reading output streamTurn) [] b out) :
    decodeStream output ⟨200, a ++ b⟩ = (outcome out).map (items ++ ·) := by
  rw [decodeStream_of_runs (runs_append_items h ha (runs_behind items hb))]
  rcases out with fault | ⟨result | more, left⟩ <;> rfl

/-- **Streamed replies are decoded part by part.** If a body is decoded as items, then with another
body behind it these items are followed by those of the other, or the call fails as on the other body
alone. If a body reports a failure, that is reported whatever follows. The bodies are any bytes: they
may be divided anywhere, and the second one may be no reply. The items are of any type that is read as
the reader hands it the input (`Codec.Local`). -/
theorem decodeStream_append (h : output.Local) (a b : Bytes) :
    (∀ items, decodeStream output ⟨200, a⟩ = .ok items →
      (∀ more, decodeStream output ⟨200, b⟩ = .ok more →
        decodeStream output ⟨200, a ++ b⟩ = .ok (items ++ more)) ∧
      ∀ error, decodeStream output ⟨200, b⟩ = .error error →
        decodeStream output ⟨200, a ++ b⟩ = .error error) ∧
    ∀ code message, decodeStream output ⟨200, a⟩ = .error (.stream code message) →
      decodeStream output ⟨200, a ++ b⟩ = .error (.stream code message) := by
  obtain ⟨out, ha⟩ := exists_runs h [] a
  obtain ⟨out', hb⟩ := exists_runs h [] b
  rw [decodeStream_of_runs ha, decodeStream_of_runs hb]
  rcases out with fault | ⟨result | list, rest⟩
  · -- a fault is neither a list of items nor a failure that was reported
    exact ⟨by rintro items ⟨⟩, by rintro code message ⟨⟩⟩
  · refine ⟨by rintro items ⟨⟩, fun code message hfailed => ?_⟩
    rw [decodeStream_of_runs (runs_append_failure h ha b)]
    exact hfailed
  · refine ⟨?_, by rintro code message ⟨⟩⟩
    rintro items ⟨⟩
    rw [decodeStream_append_items h ha hb]
    refine ⟨fun more hmore => ?_, fun error herror => ?_⟩
    · rw [hmore]
      rfl
    · rw [herror]
      rfl

open Widgets in
/-- Two widgets, one of them in an envelope given as an array, before a third one, before a cut-off
line, and the same with a failure before them. -/
theorem decodeStream_append_widgets :
    let widgets := Utf8.bytes "\x7b\"data\":\x7b\"size\":1\x7d\x7d [\x7b\"size\":2\x7d]"
    let widget := Utf8.bytes "\n[\x7b\"size\":3\x7d,null]\n"
    let cutOff := Utf8.bytes "\x7b\"data"
    let failure := Utf8.bytes "\x7b\"result\":\x7b\"message\":\"gone\",\"code\":409\x7d\x7d"
    Widget.codec.Local ∧
      decodeStream Widget.codec ⟨200, widgets ++ widget⟩ =
        .ok [⟨[], ⟨"", ""⟩, 1⟩, ⟨[], ⟨"", ""⟩, 2⟩, ⟨[], ⟨"", ""⟩, 3⟩] ∧
      decodeStream Widget.codec ⟨200, widgets ++ cutOff⟩ =
        .error (.decode "EOF while parsing a string") ∧
      decodeStream Widget.codec ⟨200, failure ++ widgets⟩ = .error (.stream 409 "gone") := by
  intro widgets widget cutOff failure
  have hlocal := Widget.local_codec
  have hwidgets : decodeStream Widget.codec ⟨200, widgets⟩ =
      .ok [⟨[], ⟨"", ""⟩, 1⟩, ⟨[], ⟨"", ""⟩, 2⟩] := by decide +kernel
  refine ⟨hlocal, ?_, ?_, ?_⟩
  · exact ((decodeStream_append hlocal widgets widget).1 _ hwidgets).1 _ (by decide +kernel)
  · exact ((decodeStream_append hlocal widgets cutOff).1 _ hwidgets).2 _ (by decide +kernel)
  · exact (decodeStream_append hlocal failure widgets).2 _ _ (by decide +kernel)

end ApiResponse

end RegionGateway
