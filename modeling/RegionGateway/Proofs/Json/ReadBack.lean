import RegionGateway.Json.Codec
import RegionGateway.Proofs.Json.Traversal

/-!
# Values that are read back

`Codec.ReadsLaid`: a codec reads a value from its text in a layout, whatever ends the value there.
Scalars, lists and records are treated one after the other; a record asks for the values of its
fields, and for names that do not stand for one another (`Members.Distinct`). For compact texts this is
`Codec.Reads`, and `Codec.ReadsBack` if the value is written by the codec.
-/

namespace RegionGateway

variable {α β : Type}

namespace Codec

/-- The codec reads a JSON value as a value of its own, wherever the text of that value stands, when
so many brackets may still be opened. -/
def Reads (codec : Codec α) (depth : Nat) (json : Json) (value : α) : Prop :=
  ∀ rest, Delimited rest → codec.read depth (json.bytes ++ rest) = .ok (value, rest)

/-- The codec stops with a fault wherever the text of a JSON value stands. -/
def Refuses (codec : Codec α) (depth : Nat) (json : Json) : Prop :=
  ∀ rest, Delimited rest → ∃ fault, codec.read depth (json.bytes ++ rest) = .error fault

/-- The codec reads a value from the text that it writes for it. -/
def ReadsBack (codec : Codec α) (depth : Nat) (value : α) : Prop :=
  codec.Reads depth (codec.write value) value

/-- The codec reads a JSON value as a value of its own from its text in a layout, behind some bytes. -/
def ReadsLaid (codec : Codec α) (layout : Json.Layout) (indent : Nat) (lead : Bytes) (depth : Nat)
    (json : Json) (value : α) : Prop :=
  ∀ rest, Delimited rest →
    codec.read depth (lead ++ (Json.laid layout indent json ++ rest)) = .ok (value, rest)

theorem readsLaid_compact (indent : Nat) {codec : Codec α} {depth : Nat} {json : Json} {value : α} :
    codec.ReadsLaid .compact indent [] depth json value ↔ codec.Reads depth json value := by
  simp only [ReadsLaid, Reads, Json.laid_compact, List.nil_append]

/-- A whole text, with blanks behind it, is decoded as the value that its codec reads there. -/
theorem ReadsLaid.decode {codec : Codec α} {layout : Json.Layout} {indent : Nat} {json : Json} {value : α}
    (h : codec.ReadsLaid layout indent [] Json.maxDepth json value) {blanks : Bytes}
    (hblanks : ∀ b ∈ blanks, Reader.isBlank b = true) :
    codec.decode (Json.laid layout indent json ++ blanks) = .ok value := by
  have hread := h blanks (by simpa using Delimited.blanks hblanks .nil)
  rw [List.nil_append] at hread
  unfold Codec.decode Reader.whole
  rw [hread]
  exact if_pos (List.all_eq_true.mpr hblanks)

theorem Reads.decode {codec : Codec α} {json : Json} {value : α}
    (h : codec.Reads Json.maxDepth json value) : codec.decode json.bytes = .ok value := by
  have hdecode := ((readsLaid_compact 0).mpr h).decode (List.forall_mem_nil _)
  rwa [List.append_nil, Json.laid_compact] at hdecode

section

variable {layout : Json.Layout} {lead : Bytes} (hlead : ∀ b ∈ lead, Reader.isBlank b = true)
  (indent depth : Nat)
include hlead

/-! ## Scalars -/

theorem text_readsLaid (s : String) : text.ReadsLaid layout indent lead depth (.str s) s := by
  intro rest _
  dsimp only [text, scalar]
  rw [Reader.anyValue_blanks _ _ _ hlead, Json.laid_str_eq]
  exact Reader.anyValue_str _ _ _ s rest

theorem flag_readsLaid (b : Bool) : flag.ReadsLaid layout indent lead depth (.bool b) b := by
  intro rest _
  dsimp only [flag, scalar]
  rw [Reader.anyValue_blanks _ _ _ hlead]
  exact Reader.anyValue_bool _ _ _ layout indent b rest

theorem natural_readsLaid (expected : Expected) {bound : Nat} (hbound : bound ≤ UInt64.size) {n : Nat}
    (h : n < bound) : (natural expected bound).ReadsLaid layout indent lead depth (.int n) n := by
  intro rest hrest
  have hgreatest : n ≤ NumberText.greatest := Nat.le_sub_one_of_lt (Nat.lt_of_lt_of_le h hbound)
  dsimp only [natural, scalar]
  rw [Reader.anyValue_blanks _ _ _ hlead, Reader.anyValue_nat _ _ _ hgreatest layout indent hrest]
  simp only
  rw [if_pos (by omega)]
  rfl

theorem u16_readsLaid (n : UInt16) : u16.ReadsLaid layout indent lead depth (.int n.toNat) n := by
  intro rest hrest
  have hnat : (natural .u16 UInt16.size).read depth
      (lead ++ (Json.laid layout indent (.int n.toNat) ++ rest)) = .ok (n.toNat, rest) :=
    natural_readsLaid hlead indent depth .u16 (by decide) n.toNat_lt_size rest hrest
  refine (Reader.bind_ok _ hnat).trans ?_
  rw [UInt16.ofNat_toNat]
  rfl

theorem u32_readsLaid (n : UInt32) : u32.ReadsLaid layout indent lead depth (.int n.toNat) n := by
  intro rest hrest
  have hnat : (natural .u32 UInt32.size).read depth
      (lead ++ (Json.laid layout indent (.int n.toNat) ++ rest)) = .ok (n.toNat, rest) :=
    natural_readsLaid hlead indent depth .u32 (by decide) n.toNat_lt_size rest hrest
  refine (Reader.bind_ok _ hnat).trans ?_
  rw [UInt32.ofNat_toNat]
  rfl

/-! ## Lists -/

variable {indent depth}

theorem list_readsLaid (hlayout : layout.Blank) {item : Codec α} {values : List α}
    (h : ∀ value ∈ values, item.ReadsLaid layout (indent + 1) [] depth (item.write value) value) :
    (list item).ReadsLaid layout indent lead (depth + 1) (.arr (values.map item.write)) values := by
  intro rest _
  obtain ⟨tail, htail⟩ := Json.laid_arr layout indent (values.map item.write)
  dsimp only [list]
  rw [Reader.anyValue_blanks _ _ _ hlead, htail, List.cons_append, Reader.anyValue_list,
    ← List.cons_append, ← htail]
  exact Reader.items_laid hlayout h rest

/-! ## Optional values -/

/-- A value other than null is read by the codec of the values that are not null. -/
theorem option_read_of_ne_null {inner : Codec α} {json : Json} (h : json ≠ .null) (rest : Bytes) :
    inner.option.read depth (lead ++ (Json.laid layout indent json ++ rest)) =
      (some <$> inner.read depth) (Json.laid layout indent json ++ rest) := by
  obtain ⟨b, tail, hbytes, hblank, hmark⟩ :=
    Json.laid_head_of_ne_null layout indent h
  have hchar : some (Char.ofNat b.toNat) ≠ some 'n' := by
    intro hn
    rw [Option.some.inj hn] at hmark
    exact hmark (List.mem_cons_of_mem _ List.mem_cons_self)
  dsimp only [option]
  rw [Reader.bind_congr _ (Reader.peekToken_blanks hlead _), hbytes, List.cons_append,
    Reader.bind_ok _ (Reader.peekToken_cons _ _ hblank rfl), if_neg hchar]
  rfl

theorem option_readsLaid {inner : Codec α} {json : Json} {value : α}
    (h : inner.ReadsLaid layout indent [] depth json value) (hnull : json ≠ .null) :
    inner.option.ReadsLaid layout indent lead depth json (some value) := by
  intro rest hrest
  rw [option_read_of_ne_null hlead hnull]
  exact Reader.map_ok some (h rest hrest)

end

/-! ## Compact texts -/

theorem text_readsBack (depth : Nat) (s : String) : text.ReadsBack depth s :=
  (readsLaid_compact 0).mp (text_readsLaid (by simp) 0 depth s)

theorem u16_readsBack (depth : Nat) (n : UInt16) : u16.ReadsBack depth n :=
  (readsLaid_compact 0).mp (u16_readsLaid (by simp) 0 depth n)

theorem u32_readsBack (depth : Nat) (n : UInt32) : u32.ReadsBack depth n :=
  (readsLaid_compact 0).mp (u32_readsLaid (by simp) 0 depth n)

theorem list_readsBack {item : Codec α} {depth : Nat} {values : List α}
    (h : ∀ value ∈ values, item.ReadsBack depth value) :
    (list item).ReadsBack (depth + 1) values :=
  (readsLaid_compact 0).mp (list_readsLaid (by simp) Json.Layout.blank_compact
    fun value hvalue => (readsLaid_compact 1).mpr (h value hvalue))

theorem option_reads {inner : Codec α} {depth : Nat} {json : Json} {value : α}
    (h : inner.Reads depth json value) (hnull : json ≠ .null) :
    inner.option.Reads depth json (some value) :=
  (readsLaid_compact 0).mp (option_readsLaid (by simp) ((readsLaid_compact 0).mpr h) hnull)

theorem option_refuses {inner : Codec α} {depth : Nat} {json : Json}
    (h : inner.Refuses depth json) (hnull : json ≠ .null) : inner.option.Refuses depth json := by
  intro rest hrest
  obtain ⟨fault, hread⟩ := h rest hrest
  have hoption : inner.option.read depth ([] ++ (Json.laid .compact 0 json ++ rest)) =
      (some <$> inner.read depth) (Json.laid .compact 0 json ++ rest) :=
    option_read_of_ne_null (by simp) hnull rest
  rw [Json.laid_compact, List.nil_append] at hoption
  rw [hoption]
  exact ⟨fault, Reader.map_error some hread⟩

theorem option_reads_null (inner : Codec α) (depth : Nat) : inner.option.Reads depth .null none := by
  intro rest _
  rw [Json.bytes_null]
  rfl

end Codec

/-! ## Records -/

namespace Members

/-- The names that are written. -/
def names : {σ τ : Type} → Members σ τ → List String
  | _, _, .nil => []
  | _, _, .cons first rest => first.name :: rest.names

/-- No field answers to the name of a later one. -/
def Distinct : {σ τ : Type} → Members σ τ → Prop
  | _, _, .nil => True
  | _, _, .cons first rest => (∀ name ∈ rest.names, first.isNamed name = false) ∧ rest.Distinct

/-- Every value is read back, or left out and what stands for an absent one. -/
def ReadsBack (depth : Nat) : {σ τ : Type} → Members σ τ → σ → Prop
  | _, _, .nil, () => True
  | _, _, .cons first rest, (value, values) =>
    (if first.omits value then first.absent = some value else first.codec.ReadsBack depth value) ∧
      rest.ReadsBack depth values

/-- The same in a layout, at a nesting depth. -/
def ReadsLaid (layout : Json.Layout) (indent depth : Nat) : {σ τ : Type} → Members σ τ → σ → Prop
  | _, _, .nil, () => True
  | _, _, .cons first rest, (value, values) =>
    (if first.omits value then first.absent = some value
      else first.codec.ReadsLaid layout indent layout.afterColon depth (first.codec.write value) value) ∧
      rest.ReadsLaid layout indent depth values

/-- What has been found when the text of the values has been read. -/
def found : {σ τ : Type} → Members σ τ → σ → τ
  | _, _, .nil, () => ()
  | _, _, .cons first rest, (value, values) =>
    (if first.omits value then Option.none else some value, rest.found values)

variable {σ τ : Type}

theorem readsLaid_compact {members : Members σ τ} {indent depth : Nat} {values : σ} :
    members.ReadsLaid .compact indent depth values ↔ members.ReadsBack depth values := by
  induction members with
  | nil => exact Iff.rfl
  | cons first rest ih =>
      refine and_congr ?_ ih
      rw [Json.afterColon_compact, Codec.readsLaid_compact indent]
      exact Iff.rfl

theorem mem_names_of_mem_write {members : Members σ τ} {values : σ} {m : String × Json}
    (h : m ∈ members.write values) : m.1 ∈ members.names := by
  induction members with
  | nil => cases h
  | cons first rest ih =>
      obtain ⟨value, values⟩ := values
      simp only [write] at h
      split at h
      · exact List.mem_cons_of_mem _ (ih h)
      · rcases List.mem_cons.mp h with rfl | h
        · exact List.mem_cons_self
        · exact List.mem_cons_of_mem _ (ih h)

section

variable {layout : Json.Layout} {indent depth : Nat}

/-- Members that the first field does not answer to are read by the other fields. -/
theorem readsMembers_cons {first : Member α} {rest : Members σ τ}
    {list : List (String × Json)} {start final : τ} (seen : Option α)
    (hnames : ∀ m ∈ list, first.isNamed m.1 = false)
    (h : Reader.ReadsLaidMembers layout indent (rest.fill depth) list start final) :
    Reader.ReadsLaidMembers layout indent ((Members.cons first rest).fill depth) list (seen, start)
      (seen, final) := by
  -- what the first field has seen stays as it is
  induction list generalizing start with
  | nil => exact congrArg (seen, ·) h
  | cons m list ih =>
      obtain ⟨name, json⟩ := m
      obtain ⟨middle, hmember, hlist⟩ := h
      refine ⟨(seen, middle), ?_, ih (fun m hm => hnames m (List.mem_cons_of_mem _ hm)) hlist⟩
      intro more hmore
      have hname : first.isNamed name = false := hnames (name, json) List.mem_cons_self
      simp only [fill, hname, Bool.false_eq_true, if_false]
      exact Reader.bind_ok _ (hmember more hmore)

/-- The text of the values is read as these values. -/
theorem readsMembers_write (hlayout : layout.Blank) {members : Members σ τ} {values : σ}
    (hdistinct : members.Distinct) (h : members.ReadsLaid layout indent depth values) :
    Reader.ReadsLaidMembers layout indent (members.fill depth) (members.write values) members.none
      (members.found values) := by
  induction members with
  | nil => rfl
  | cons first rest ih =>
      obtain ⟨value, values⟩ := values
      obtain ⟨hfirst, hrest⟩ := h
      -- the first field must not take a later member for its own
      have hnames : ∀ m ∈ rest.write values, first.isNamed m.1 = false :=
        fun m hm => hdistinct.1 m.1 (mem_names_of_mem_write hm)
      have htail := ih hdistinct.2 hrest
      simp only [write, found, none]
      by_cases homits : first.omits value = true
      · rw [if_pos homits, if_pos homits]
        exact readsMembers_cons Option.none hnames htail
      · rw [if_neg homits] at hfirst
        rw [if_neg homits, if_neg homits]
        refine ⟨(some value, rest.none), ?_, readsMembers_cons (some value) hnames htail⟩
        intro more hmore
        have hname : first.isNamed first.name = true := by simp [Member.isNamed]
        simp only [fill, hname, if_true]
        rw [hlayout.colon, List.cons_append, Reader.bind_ok _ (Reader.colon_cons _)]
        exact Reader.bind_ok _ (hfirst more hmore)

/-- The fields that were left out are filled in. -/
theorem complete_found {members : Members σ τ} {values : σ}
    (h : members.ReadsLaid layout indent depth values) :
    members.complete (members.found values) = .ok values := by
  induction members with
  | nil => rfl
  | cons first rest ih =>
      obtain ⟨value, values⟩ := values
      obtain ⟨hfirst, hrest⟩ := h
      have htail := ih hrest
      simp only [found, complete]
      by_cases homits : first.omits value = true
      · rw [if_pos homits] at hfirst
        rw [if_pos homits, hfirst, htail]
        rfl
      · rw [if_neg homits, htail]
        rfl

end

end Members

namespace Codec

section

variable {layout : Json.Layout} (hlayout : layout.Blank) {lead : Bytes}
  (hlead : ∀ b ∈ lead, Reader.isBlank b = true) {indent depth : Nat} {name : String}
  {members : Members σ τ} {make : σ → α} {parts : α → σ}
include hlayout hlead

/-- A record is read from an object whose members are read into its fields. -/
theorem record_readsLaidMembers {list : List (String × Json)} {found : τ} {values : σ}
    (hlist : Reader.ReadsLaidMembers layout (indent + 1) (members.fill depth) list members.none found)
    (hcomplete : members.complete found = .ok values) :
    (record name members make parts).ReadsLaid layout indent lead (depth + 1) (.obj list)
      (make values) := by
  intro rest _
  obtain ⟨tail, htail⟩ := Json.laid_obj layout indent list
  have hobject : (tuple name members).read (depth + 1)
      (lead ++ (Json.laid layout indent (.obj list) ++ rest)) = .ok (values, rest) := by
    have hmembers := Reader.members_laid hlayout hlist rest
    rw [htail, List.cons_append] at hmembers ⊢
    dsimp only [tuple]
    rw [Reader.anyValue_blanks _ _ _ hlead, Reader.anyValue_object]
    show recordFromObject members depth _ = _
    rw [recordFromObject, Reader.bind_ok _ hmembers, hcomplete]
    rfl
  exact Reader.bind_ok _ hobject

theorem record_readsLaid {value : α} (hmake : make (parts value) = value) (hdistinct : members.Distinct)
    (h : members.ReadsLaid layout (indent + 1) depth (parts value)) :
    (record name members make parts).ReadsLaid layout indent lead (depth + 1)
      (.obj (members.write (parts value))) value := by
  have hreads : (record name members make parts).ReadsLaid layout indent lead (depth + 1)
      (.obj (members.write (parts value))) (make (parts value)) :=
    record_readsLaidMembers hlayout hlead (Members.readsMembers_write hlayout hdistinct h)
      (Members.complete_found h)
  rwa [hmake] at hreads

end

/-! ## Records in compact texts -/

theorem record_reads {name : String} {members : Members σ τ} {make : σ → α} {parts : α → σ}
    {depth : Nat} {list : List (String × Json)} {found : τ} {values : σ}
    (hlist : Reader.ReadsMembers (members.fill depth) list members.none found)
    (hcomplete : members.complete found = .ok values) :
    (record name members make parts).Reads (depth + 1) (.obj list) (make values) :=
  (readsLaid_compact 0).mp (record_readsLaidMembers Json.Layout.blank_compact (by simp)
    (Reader.readsLaidMembers_compact.mpr hlist) hcomplete)

/-- A record whose first member stops with a fault is refused. -/
theorem record_refuses {name : String} {members : Members σ τ} {make : σ → α} {parts : α → σ}
    {depth : Nat} {key : String} {json : Json} {list : List (String × Json)}
    (h : ∀ more, Delimited more → ∃ fault,
      members.fill depth key members.none (0x3A :: (json.bytes ++ more)) = .error fault) :
    (record name members make parts).Refuses (depth + 1) (.obj ((key, json) :: list)) := by
  intro rest _
  obtain ⟨tail, htail⟩ := Json.bytes_obj ((key, json) :: list)
  have hstop : ∃ fault, Reader.members (members.fill depth) members.none
      ((Json.obj ((key, json) :: list)).bytes ++ rest) = .error fault := Reader.members_stop h list rest
  obtain ⟨fault, hmembers⟩ := hstop
  refine ⟨fault, Reader.bind_error _ ?_⟩
  rw [htail, List.cons_append] at hmembers ⊢
  dsimp only [tuple]
  rw [Reader.anyValue_object]
  exact Reader.bind_error _ hmembers

theorem record_readsBack {name : String} {members : Members σ τ} {make : σ → α} {parts : α → σ}
    {depth : Nat} {value : α} (hmake : make (parts value) = value) (hdistinct : members.Distinct)
    (h : members.ReadsBack depth (parts value)) :
    (record name members make parts).ReadsBack (depth + 1) value :=
  (readsLaid_compact 0).mp (record_readsLaid Json.Layout.blank_compact (by simp) hmake
    hdistinct (Members.readsLaid_compact.mpr h))

end Codec

end RegionGateway
