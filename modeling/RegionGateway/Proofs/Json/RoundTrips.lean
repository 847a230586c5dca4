import RegionGateway.Proofs.Json.ReadBack

/-!
# Codecs that read what they write

`Codec.RoundTrips`: a codec reads every value from the text that it writes for it, in every layout that
puts blanks between the tokens. A record does if its fields do (`record_roundTrips`), a field if its codec
does and what it leaves out in writing is what stands for an absent value (`Member.RoundTrips`).
-/

namespace RegionGateway

variable {α β σ τ : Type}

/-- The codec reads every value from the text that it writes for it, whatever the layout. -/
def Codec.RoundTrips (codec : Codec α) (depth : Nat) : Prop :=
  ∀ layout : Json.Layout, layout.Blank → ∀ lead : Bytes, (∀ b ∈ lead, Reader.isBlank b = true) →
    ∀ indent value, codec.ReadsLaid layout indent lead depth (codec.write value) value

/-- Every value of a field is read from its text, or left out and what stands for an absent one. -/
def Member.RoundTrips (member : Member α) (depth : Nat) : Prop :=
  ∀ value, if member.omits value then member.absent = some value
    else ∀ layout : Json.Layout, layout.Blank → ∀ lead : Bytes, (∀ b ∈ lead, Reader.isBlank b = true) →
      ∀ indent, member.codec.ReadsLaid layout indent lead depth (member.codec.write value) value

namespace Codec

theorem text_roundTrips (depth : Nat) : text.RoundTrips depth :=
  fun _ _ _ hlead indent s => text_readsLaid hlead indent depth s

/-- A text is never written as null. -/
theorem write_text_ne_null (s : String) : text.write s ≠ .null := by
  intro h
  cases h

theorem flag_roundTrips (depth : Nat) : flag.RoundTrips depth :=
  fun _ _ _ hlead indent b => flag_readsLaid hlead indent depth b

theorem u32_roundTrips (depth : Nat) : u32.RoundTrips depth :=
  fun _ _ _ hlead indent n => u32_readsLaid hlead indent depth n

theorem list_roundTrips {item : Codec α} {depth : Nat} (h : item.RoundTrips depth) :
    (list item).RoundTrips (depth + 1) := by
  intro layout hlayout lead hlead indent values
  exact list_readsLaid hlead hlayout fun value _ => h layout hlayout [] (by simp) (indent + 1) value

end Codec

/-! ## Fields -/

namespace Member

variable {codec : Codec α} {depth : Nat}

theorem required_roundTrips (name : String) (h : codec.RoundTrips depth) :
    (required name codec).RoundTrips depth :=
  fun value layout hlayout lead hlead indent => h layout hlayout lead hlead indent value

theorem defaulted_roundTrips (name : String) (h : codec.RoundTrips depth) (value : α) :
    (defaulted name codec value).RoundTrips depth :=
  fun value layout hlayout lead hlead indent => h layout hlayout lead hlead indent value

theorem also_roundTrips (second : String) {member : Member α} (h : member.RoundTrips depth) :
    (member.also second).RoundTrips depth := h

/-- A field may be left out where it has the value that stands for an absent one. -/
theorem leftOutWhen_roundTrips {omits : α → Bool} {member : Member α} (h : member.RoundTrips depth)
    (hnone : ∀ value, member.omits value = false)
    (habsent : ∀ value, omits value = true → member.absent = some value) :
    (member.leftOutWhen omits).RoundTrips depth := by
  intro value
  have hvalue := h value
  rw [if_neg (by simp [hnone])] at hvalue
  show if omits value = true then member.absent = some value else _
  split
  · next homits => exact habsent value homits
  · exact hvalue

/-- An optional field is left out if there is no value; a value is never written as null. -/
theorem optional_roundTrips (name : String) (h : codec.RoundTrips depth)
    (hnull : ∀ value, codec.write value ≠ .null) : (optional name codec).RoundTrips depth := by
  intro value
  cases value with
  | none => rfl
  | some value =>
      intro layout hlayout lead hlead indent
      exact Codec.option_readsLaid hlead (h layout hlayout [] (by simp) indent value) (hnull value)

end Member

/-! ## Records -/

/-- All fields can be read back. -/
def Members.RoundTrips (depth : Nat) : {σ τ : Type} → Members σ τ → Prop
  | _, _, .nil => True
  | _, _, .cons first rest => first.RoundTrips depth ∧ rest.RoundTrips depth

theorem Members.RoundTrips.readsLaid {members : Members σ τ} {depth : Nat} (h : members.RoundTrips depth)
    {layout : Json.Layout} (hlayout : layout.Blank) (indent : Nat) (values : σ) :
    members.ReadsLaid layout indent depth values := by
  induction members with
  | nil => trivial
  | cons first rest ih =>
      obtain ⟨value, values⟩ := values
      refine ⟨?_, ih h.2 values⟩
      have hfirst := h.1 value
      split at hfirst
      · next homits => rwa [if_pos homits]
      · next homits =>
          rw [if_neg homits]
          exact hfirst layout hlayout layout.afterColon hlayout.afterColon indent

theorem Codec.record_roundTrips {name : String} {members : Members σ τ} {make : σ → α} {parts : α → σ}
    {depth : Nat} (hmake : ∀ value, make (parts value) = value) (hdistinct : members.Distinct)
    (h : members.RoundTrips depth) : (record name members make parts).RoundTrips (depth + 1) := by
  intro layout hlayout lead hlead indent value
  exact record_readsLaid hlayout hlead (hmake value) hdistinct (h.readsLaid hlayout (indent + 1) _)

/-! ## Whole texts -/

section

variable {codec : Codec α} (h : codec.RoundTrips Json.maxDepth) (value : α)
include h

theorem Codec.RoundTrips.decode_encode :
    codec.decode (Utf8.bytes (codec.encode value)) = .ok value := by
  have hreads := h .compact Json.Layout.blank_compact [] (List.forall_mem_nil _) 0 value
  have hdecode := hreads.decode (List.forall_mem_nil _)
  rwa [List.append_nil, Json.laid_compact] at hdecode

/-- A newline may follow a value on indented lines. -/
theorem Codec.RoundTrips.decode_pretty :
    codec.decode (Utf8.bytes ((codec.write value).pretty ++ "\n")) = .ok value := by
  have hbytes : Utf8.bytes ((codec.write value).pretty ++ "\n") =
      Json.laid .pretty 0 (codec.write value) ++ [0x0A] := by
    rw [Json.pretty, Utf8.bytes, String.toList_append, String.toList_ofList, Utf8.encode_append]
    rfl
  rw [hbytes]
  exact (h .pretty Json.Layout.blank_pretty [] (List.forall_mem_nil _) 0 value).decode
    (List.all_eq_true.mp (by decide))

end

end RegionGateway
