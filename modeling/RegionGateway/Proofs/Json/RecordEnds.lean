import RegionGateway.Proofs.Json.Lookahead
import RegionGateway.Proofs.Json.TypedRead

/-!
# Where typed values end

Codecs made of the ones for scalars, lists and records see at most one byte behind a value
(`Codec.Local`), and a record ends with its bracket (`Codec.delimits_record`).
-/

namespace RegionGateway

open Reader

variable {α β σ τ : Type}

/-- The codec reads its values off the front of the input and sees at most one byte behind them. A type is
handed its input by the reader piece by piece, and the reader looks no further ahead. -/
def Codec.Local (codec : Codec α) : Prop := ∀ depth, (codec.read depth).Local

/-- The fields of a record are read so. -/
def Members.Local : {σ τ : Type} → Members σ τ → Prop
  | _, _, .nil => True
  | _, _, .cons first rest => first.codec.Local ∧ rest.Local

namespace Codec

theorem local_any : any.Local := Json.local_read

theorem local_scalar (expected : Expected) {accept : Scalar → Reader α}
    (haccept : ∀ s, (accept s).Local) (depth : Nat) : (scalar expected accept depth).Local :=
  local_anyValue haccept (local_fail _) (local_fail _)

theorem local_text : text.Local := by
  intro depth
  dsimp only [text]
  refine local_scalar _ (fun s => ?_) depth
  split
  · exact local_pure _
  · exact local_fail _

theorem local_natural (expected : Expected) (bound : Nat) : (natural expected bound).Local := by
  intro depth
  dsimp only [natural]
  refine local_scalar _ (fun s => ?_) depth
  split
  · split
    · exact local_pure _
    · exact local_fail _
  · exact local_fail _

theorem local_u16 : u16.Local := fun depth =>
  local_bind (local_natural _ _ depth) fun _ => local_pure _

theorem local_u32 : u32.Local := fun depth =>
  local_bind (local_natural _ _ depth) fun _ => local_pure _

theorem local_opening {rest : Nat → Reader α} (h : ∀ depth, (rest depth).Local) (depth : Nat) :
    (opening rest depth).Local := by
  cases depth with
  | zero => exact local_fail _
  | succ depth => exact h depth

theorem local_list {item : Codec α} (h : item.Local) : (list item).Local := by
  intro depth
  dsimp only [list]
  refine local_anyValue (fun _ => local_fail _) ?_ (local_fail _)
  exact local_opening (fun depth => local_items (h depth)) depth

theorem local_option {inner : Codec α} (h : inner.Local) : inner.option.Local := by
  intro depth
  refine local_bind local_peekToken fun token => ?_
  split
  · exact local_bind (local_word _) fun _ => local_pure _
  · exact local_bind (h depth) fun _ => local_pure _

end Codec

/-! ## Records -/

namespace Members

theorem local_fill (depth : Nat) (name : String) {members : Members σ τ} (h : members.Local)
    (found : τ) : (members.fill depth name found).Local := by
  induction members with
  | nil => exact local_bind local_colon fun _ => Json.local_skip
  | cons first rest ih =>
      obtain ⟨found, others⟩ := found
      unfold fill
      split
      · split
        · exact local_fail _
        · exact local_bind local_colon fun _ => local_bind (h.1 depth) fun _ => local_pure _
      · exact local_bind (ih h.2 others) fun _ => local_pure _

theorem local_fromArray (depth : Nat) (record : String) (total place : Nat) {members : Members σ τ}
    (h : members.Local) : (members.fromArray depth record total place).Local := by
  induction members generalizing place with
  | nil => exact local_pure ()
  | cons first rest ih =>
      unfold fromArray
      refine local_bind (local_anotherElement _) fun another => ?_
      split
      · exact local_bind (h.1 depth) fun _ => local_bind (ih _ h.2) fun _ => local_pure _
      · split
        · exact local_bind (ih _ h.2) fun _ => local_pure _
        · exact local_fail _

end Members

namespace Codec

theorem wants_closeArray : closeArray.Wants := by
  rintro a rest ⟨⟩

/-- The bracket that ends an array is seen before it is taken. -/
theorem delimits_closeArray : closeArray.Delimits := by
  rintro input ⟨⟩ rest h
  have hstripped := Members.closeArray_eq_ok h
  refine ⟨(List.suffix_cons 0x5D rest).trans (hstripped ▸ List.dropWhile_suffix _), fun more => ?_⟩
  have hne : input.dropWhile isBlank ≠ [] := by
    rw [hstripped]
    exact List.cons_ne_nil _ _
  have hgrown : (input ++ more).dropWhile isBlank = 0x5D :: (rest ++ more) := by
    rw [dropWhile_append hne, hstripped, List.cons_append]
  rw [closeArray, bind_ok _ (peekToken_stripped hgrown)]
  rfl

theorem delimits_opening {rest : Nat → Reader α} (h : ∀ depth, (rest depth).Delimits ∧ (rest depth).Wants)
    (depth : Nat) : (opening rest depth).Delimits ∧ (opening rest depth).Wants := by
  cases depth with
  | zero => exact (never_fail _).delimits
  | succ depth => exact h depth

section

variable {members : Members σ τ} (h : members.Local)
include h

/-- The fields of a record and the bracket behind them. -/
theorem delimits_fromArray (name : String) (depth : Nat) :
    (members.fromArray depth name members.size 0 >>= fun values =>
      closeArray >>= fun _ => (return values : Reader σ)).Delimits ∧
    (members.fromArray depth name members.size 0 >>= fun values =>
      closeArray >>= fun _ => (return values : Reader σ)).Wants := by
  have hfields : (members.fromArray depth name members.size 0).Local :=
    Members.local_fromArray depth name _ 0 h
  have hclose : ∀ values : σ, (closeArray >>= fun _ => (return values : Reader σ)).Delimits ∧
      (closeArray >>= fun _ => (return values : Reader σ)).Wants := fun values =>
    ⟨delimits_closeArray.bind fun _ => delimits_pure values, wants_closeArray.bind _⟩
  exact ⟨delimits_bind hfields hclose, wants_bind hfields.shortens fun values => (hclose values).2⟩

/-- From an array, a record is read up to its bracket. -/
theorem delimits_recordFromArray (name : String) (depth : Nat) :
    (recordFromArray name members depth).Delimits ∧ (recordFromArray name members depth).Wants :=
  ⟨delimits_bind local_advance fun _ => delimits_fromArray h name depth,
    wants_bind local_advance.shortens fun _ => (delimits_fromArray h name depth).2⟩

/-- From an object, a record is read up to its bracket. -/
theorem delimits_recordFromObject (depth : Nat) :
    (recordFromObject members depth).Delimits ∧ (recordFromObject members depth).Wants := by
  have hmembers : (Reader.members (members.fill depth) members.none).Delimits :=
    delimits_members (fun name found => Members.local_fill depth name h found) members.none
  refine ⟨hmembers.bind fun found => ?_, by rintro values rest ⟨⟩⟩
  split
  · exact delimits_pure _
  · exact delimits_fail _

theorem delimits_tuple (name : String) (depth : Nat) : ((tuple name members).read depth).Delimits := by
  dsimp only [tuple]
  exact delimits_anyValue (fun _ => never_fail _)
    (delimits_opening (delimits_recordFromArray h name) depth)
    (delimits_opening (delimits_recordFromObject h) depth)

/-- **Records end with their bracket.** Whatever follows a record does not matter to its reader. -/
theorem delimits_record (name : String) (make : σ → α) (parts : α → σ) (depth : Nat) :
    ((record name members make parts).read depth).Delimits :=
  (delimits_tuple h name depth).bind fun _ => delimits_pure _

/-- A record takes one byte at least. -/
theorem record_takes (name : String) (make : σ → α) (parts : α → σ) {depth : Nat}
    {input rest : Bytes} {value : α}
    (hread : (record name members make parts).read depth input = .ok (value, rest)) :
    rest.length < input.length := by
  have hopening : ∀ {x : Nat → Reader σ}, (∀ depth, (x depth).Consumes) →
      (opening x depth).Consumes := by
    intro x hx
    cases depth with
    | zero => rintro b tail a rest ⟨⟩
    | succ depth => exact hx depth
  have harray : ∀ depth, (recordFromArray name members depth).Consumes := fun depth =>
    consumes_bind consumes_advance fun _ => (delimits_fromArray h name depth).1.local.shortens
  have hobject : ∀ depth, (recordFromObject members depth).Consumes := by
    intro depth
    refine consumes_bind (consumes_members (fun name found =>
      (Members.local_fill depth name h found).shortens) members.none) fun found => ?_
    split
    · exact shortens_pure _
    · exact shortens_fail _
  obtain ⟨values, middle, hvalues, hmake⟩ := bind_eq_ok.mp hread
  cases hmake
  dsimp only [tuple] at hvalues
  exact (Json.consumes_anyValue (fun _ => shortens_fail _) (hopening harray) (hopening hobject)
    input values rest hvalues).2

theorem local_record (name : String) (make : σ → α) (parts : α → σ) :
    (record name members make parts).Local :=
  fun depth => (delimits_record h name make parts depth).local

end

end Codec

end RegionGateway
