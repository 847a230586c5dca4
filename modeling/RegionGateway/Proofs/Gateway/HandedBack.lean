import RegionGateway.Proofs.Gateway.Serving

/-!
# Errors that are handed back

A handler hands an error back so that it can still be written as the response; that works only for
as long as the response is empty. A unary reply keeps to this (`reply_error_untouched`). A streamed
reply keeps to it unless an item that the filter allows has no JSON form: the header goes out before
the item is turned into JSON (`error_after_header_iff`).
-/

namespace RegionGateway

variable {α τ : Type}

/-- A stream has an item without JSON form that would be sent: one that the filter allows before the
first failure. -/
def SendsUnwritable (encode : α → Except String Json) (filter : α → StateM τ Bool)
    (opened : Except GatewayError (List (StreamItem α))) (state : τ) : Prop :=
  ∃ stream, opened = .ok stream ∧
    ∃ item ∈ (sift filter stream state).1.1, ∃ reason, encode item = .error reason

/-- What is written ends in an error if an item has no JSON form. -/
theorem written_error_iff (encode : α → Except String Json) (failure : Option GatewayError)
    (items : List α) : (∃ error, (written encode failure items).1 = .error error) ↔
      ∃ item ∈ items, ∃ reason, encode item = .error reason := by
  induction items with
  | nil => simp
  | cons item items ih =>
      cases hencode : encode item with
      | error reason =>
          rw [written_unwritable failure hencode]
          simp [hencode]
      | ok json =>
          rw [written_cons failure hencode, ih]
          simp [hencode]

/-- A reply that could not be written in one piece has not been begun. -/
theorem reply_error_untouched (value : Except String Json) (state : τ) {error : GatewayError}
    {left : RecordedResponse × τ}
    (h : RecordedResponse.sinkBeside.reply value (.empty, state) = (.error error, left)) :
    left = (.empty, state) := by
  cases value with
  | error reason => exact (congrArg Prod.snd h).symm
  | ok value =>
      rw [Sink.reply_empty RecordedResponse.sinkBeside_records] at h
      cases h

section

variable (encode : α → Except String Json) (filter : α → StateM τ Bool) (state : τ)

/-- What serving a stream hands back, and what it leaves of an empty response. -/
theorem serveStream_cases (opened : Except GatewayError (List (StreamItem α))) : ∃ left,
    (∃ error, serveStream RecordedResponse.sinkBeside encode (filterBeside filter) opened
        (.empty, state) = (.error error, (.empty, left)) ∧
      ¬SendsUnwritable encode filter opened state) ∨
    (∃ result forms flushes,
      serveStream RecordedResponse.sinkBeside encode (filterBeside filter) opened (.empty, state) =
        (result, (.begun forms flushes, left)) ∧
      ((∃ error, result = .error error) ↔ SendsUnwritable encode filter opened state)) := by
  cases opened with
  | error error =>
      refine ⟨state, .inl ⟨error, serveStream_unopened _ _ _ error _, ?_⟩⟩
      rintro ⟨stream, hopened, -⟩
      cases hopened
  | ok stream =>
      obtain ⟨left, hserved⟩ := serveStream_empty (filterBeside_beside filter) encode
        RecordedResponse.sinkBeside_records stream state
      refine ⟨left, ?_⟩
      have hsends : SendsUnwritable encode filter (.ok stream) state ↔
          ∃ item ∈ (sift filter stream state).1.1, ∃ reason, encode item = .error reason := by
        constructor
        · rintro ⟨stream', hstream, h⟩
          cases hstream
          exact h
        · exact fun h => ⟨stream, rfl, h⟩
      rw [hsends]
      cases hsift : (sift filter stream state).1 with
      | mk items failure =>
          rw [hsift] at hserved
          -- without an item to send nothing has to be turned into JSON
          cases items with
          | nil =>
              cases failure with
              | none => exact .inr ⟨.ok (), [], 1, hserved, by simp⟩
              | some error => exact .inl ⟨error, hserved, by simp⟩
          | cons item rest =>
              exact .inr ⟨_, _, _, hserved, written_error_iff encode failure (item :: rest)⟩

/-- **An error after the header.** What a unary reply hands back is always written as the response. A
streamed reply hands back an error after the header has gone out exactly if it would send an item that
has no JSON form, and that error is dropped; every other error is written as the response. -/
theorem error_after_header_iff :
    (∀ value error left,
      RecordedResponse.sinkBeside.reply value (.empty, state) = (.error error, left) →
      left = (.empty, state) ∧
        RecordedResponse.after (RecordedResponse.sinkBeside.reply value) state = .failed error) ∧
    (∀ opened, (∃ error left,
        serveStream RecordedResponse.sinkBeside encode (filterBeside filter) opened (.empty, state) =
          (.error error, left) ∧ left.1 ≠ .empty) ↔ SendsUnwritable encode filter opened state) ∧
    (∀ opened error left,
      serveStream RecordedResponse.sinkBeside encode (filterBeside filter) opened (.empty, state) =
        (.error error, left) →
      (left.1 = .empty ∧ streamReply encode filter opened state = .failed error) ∨
      (left.1.status = some 200 ∧ streamReply encode filter opened state = left.1)) := by
  refine ⟨?_, ?_, ?_⟩
  · intro value error left h
    have hleft := reply_error_untouched value state h
    rw [hleft] at h
    exact ⟨hleft, RecordedResponse.after_error h⟩
  · intro opened
    obtain ⟨left, ⟨error, hserved, hnot⟩ | ⟨result, forms, flushes, hserved, hiff⟩⟩ :=
      serveStream_cases encode filter state opened
    · constructor
      · rintro ⟨error', left', h, hwritten⟩
        rw [hserved] at h
        cases h
        exact absurd rfl hwritten
      · exact fun hsends => absurd hsends hnot
    · constructor
      · rintro ⟨error', left', h, -⟩
        rw [hserved] at h
        cases h
        exact hiff.mp ⟨error', rfl⟩
      · intro hsends
        obtain ⟨error, rfl⟩ := hiff.mpr hsends
        refine ⟨error, _, hserved, ?_⟩
        intro hempty
        cases hempty
  · intro opened error left h
    obtain ⟨left', ⟨error', hserved, -⟩ | ⟨result, forms, flushes, hserved, -⟩⟩ :=
      serveStream_cases encode filter state opened
    · rw [hserved] at h
      cases h
      exact .inl ⟨rfl, RecordedResponse.after_error hserved⟩
    · rw [hserved] at h
      cases h
      exact .inr ⟨rfl, RecordedResponse.after_error_written hserved rfl⟩

end

/-- The only item of a stream has no JSON form. -/
theorem error_after_header_first_item :
    ∃ error left, serveStream RecordedResponse.sinkBeside
      (fun _ => .error "key must be a string" : Unit → Except String Json)
      (filterBeside fun _ => return true) (.ok [.ok ()]) (.empty, ()) = (.error error, left) ∧
      left.1 ≠ .empty := by
  refine ((error_after_header_iff _ (fun _ => return true : Unit → StateM Unit Bool) ()).2.1 _).mpr ?_
  exact ⟨[.ok ()], rfl, (), List.mem_cons_self, "key must be a string", rfl⟩

end RegionGateway
