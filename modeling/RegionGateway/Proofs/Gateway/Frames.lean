import RegionGateway.Gateway.Serve
import RegionGateway.Proofs.Operations

/-!
# What serving does not touch

Replies are written by operations of the sink only, and streams by these and the filter. Along a
relation that relates every state to itself and that can be chained (`Chain`), a reply leads wherever
the sink does (`reply_leads`), and a stream wherever the sink and the filter do (`serveStream_leads`).
-/

namespace RegionGateway

variable {α β σ : Type}

/-- The operations of a sink lead along a relation. -/
structure Sink.Leads (sink : Sink σ) (related : σ → σ → Prop) : Prop where
  writeHeader : ∀ status contentType,
    (sink.writeHeader status contentType).Leads related fun _ => True
  writeBody : ∀ chunk, (sink.writeBody chunk).Leads related fun _ => True
  flush : sink.flush.Leads related fun _ => True

theorem Sink.attempt_leads {related : σ → σ → Prop} {operation : Attempt σ String α}
    {given : α → Prop} (h : operation.Leads related given) :
    (Sink.attempt operation).Leads related given := by
  intro s
  obtain ⟨hstate, hgiven⟩ := h s
  refine ⟨hstate, ?_⟩
  intro a ha
  refine hgiven a ?_
  replace ha : (operation s).1.mapError GatewayError.io = .ok a := ha
  cases hresult : (operation s).1 with
  | error reason =>
      rw [hresult] at ha
      cases ha
  | ok value =>
      rw [hresult] at ha
      cases ha
      rfl

section

variable {related : σ → σ → Prop} (hchain : Attempt.Chain related) {sink : Sink σ}
  (hsink : sink.Leads related)
include hchain hsink

theorem Sink.reply_leads (value : Except String Json) :
    (sink.reply value).Leads related fun _ => True := by
  cases value with
  | error reason => exact Attempt.leads_throw hchain _ _
  | ok value =>
      refine Attempt.leads_bind hchain (Sink.attempt_leads (hsink.writeHeader _ _)) fun _ _ => ?_
      refine Attempt.leads_bind hchain (Sink.attempt_leads (hsink.writeBody _)) fun _ _ => ?_
      exact Sink.attempt_leads hsink.flush

end

/-! ## Streams -/

namespace StreamWriter

/-- The responses of two writers are related. -/
def Related (related : σ → σ → Prop) (before after : StreamWriter σ) : Prop :=
  related before.response after.response

theorem related_chain {related : σ → σ → Prop} (hchain : Attempt.Chain related) :
    Attempt.Chain (Related related) :=
  ⟨fun _ => hchain.refl _, fun _ _ _ => hchain.trans _ _ _⟩

theorem step_leads {related : σ → σ → Prop} (hchain : Attempt.Chain related) (event : StreamEvent) :
    (step event).Leads (Related related) fun _ => True :=
  fun writer => ⟨hchain.refl writer.response, fun _ _ => trivial⟩

theorem onResponse_leads {related : σ → σ → Prop} {operation : Attempt σ String α}
    (h : operation.Leads related fun _ => True) :
    (onResponse operation).Leads (Related related) fun _ => True :=
  fun writer => ⟨(h writer.response).1, fun _ _ => trivial⟩

section

variable {related : σ → σ → Prop} (hchain : Attempt.Chain related) {sink : Sink σ}
  (hsink : sink.Leads related)
include hchain hsink

theorem writeLine_leads (line : Except String String) :
    (writeLine sink line).Leads (Related related) fun _ => True := by
  cases line with
  | error reason => exact Attempt.leads_throw (related_chain hchain) _ _
  | ok line =>
      refine Attempt.leads_bind (related_chain hchain) (onResponse_leads (hsink.writeBody _)) fun _ _ => ?_
      exact onResponse_leads hsink.flush

theorem item_leads (form : Except String Json) (allowed : Bool) :
    (item sink form allowed).Leads (Related related) fun _ => True := by
  refine Attempt.leads_bind (related_chain hchain) (step_leads hchain _) fun action _ => ?_
  cases action with
  | startAndWrite =>
      refine Attempt.leads_bind (related_chain hchain) (onResponse_leads (hsink.writeHeader _ _))
        fun _ _ => ?_
      exact writeLine_leads hchain hsink _
  | write => exact writeLine_leads hchain hsink _
  | _ => exact Attempt.leads_pure (related_chain hchain) trivial

theorem fail_leads (error : GatewayError) :
    (fail sink error).Leads (Related related) fun _ => True := by
  refine Attempt.leads_bind (related_chain hchain) (step_leads hchain _) fun action _ => ?_
  cases action with
  | writeResult => exact writeLine_leads hchain hsink _
  | _ => exact Attempt.leads_throw (related_chain hchain) _ _

theorem finish_leads : (finish sink).Leads (Related related) fun _ => True := by
  refine Attempt.leads_bind (related_chain hchain) (step_leads hchain _) fun action _ => ?_
  cases action with
  | startEmpty =>
      refine Attempt.leads_bind (related_chain hchain) (onResponse_leads (hsink.writeHeader _ _))
        fun _ _ => ?_
      exact onResponse_leads hsink.flush
  | _ => exact Attempt.leads_pure (related_chain hchain) trivial

end

end StreamWriter

section

variable {related : σ → σ → Prop} (hchain : Attempt.Chain related) {sink : Sink σ}
  (hsink : sink.Leads related) {allow : α → StateM σ Bool}
  (hallow : ∀ item s, related s (allow item s).2) (encode : α → Except String Json)
include hchain hsink hallow

theorem serveItems_leads (items : List (StreamItem α)) :
    (serveItems sink encode allow items).Leads (StreamWriter.Related related) fun _ => True := by
  induction items with
  | nil => exact StreamWriter.finish_leads hchain hsink
  | cons first rest ih =>
      cases first with
      | error error => exact StreamWriter.fail_leads hchain hsink error
      | ok item =>
          -- the filter is asked on the response, where it leads along the relation by assumption
          have hasked : (StreamWriter.onResponse (liftM (allow item) : Attempt σ String Bool)).Leads
              (StreamWriter.Related related) fun _ => True :=
            StreamWriter.onResponse_leads fun s => ⟨hallow item s, fun _ _ => trivial⟩
          refine Attempt.leads_bind (StreamWriter.related_chain hchain) hasked fun allowed _ => ?_
          exact Attempt.leads_bind (StreamWriter.related_chain hchain)
            (StreamWriter.item_leads hchain hsink _ allowed) fun _ _ => ih

theorem serveStream_leads (opened : Except GatewayError (List (StreamItem α))) :
    (serveStream sink encode allow opened).Leads related fun _ => True := by
  intro s
  refine ⟨?_, fun _ _ => trivial⟩
  cases opened with
  | error error => exact hchain.refl s
  | ok items => exact (serveItems_leads hchain hsink hallow encode items ⟨.notStarted, s⟩).1

end

end RegionGateway
