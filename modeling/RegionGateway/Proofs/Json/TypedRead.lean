import RegionGateway.Json.Codec
import RegionGateway.Proofs.Json.Skip

/-!
# Typed values and values of any kind

The same text read twice: as a value of a type, and as a value of any kind. Where the first succeeds,
the second gives the value that the typed one stands for (`Codec.Means`), or stops at something that
the typed reader passes over (`Codec.Followed`). Records are treated like their fields, whether they
stand as objects (`fill_followedBy`) or as arrays (`fromArray_runs`); what is known of a record then is
which of its values the text gives and which are filled in (`Members.Given`).
-/

namespace RegionGateway

open Reader

variable {α β σ τ : Type}

/-- The faults of values that can be passed over but not read. -/
def FaultKind.passedOver : FaultKind where
  tells input fault := ∃ passed depth rest, passed <:+ input ∧
    Json.skip passed = .ok ((), rest) ∧ Json.read depth passed = .error fault
  inherited := by
    rintro rest input fault hrest ⟨passed, depth, left, hpassed, hskip, hread⟩
    exact ⟨passed, depth, left, hpassed.trans hrest, hskip, hread⟩

theorem FaultKind.unreadable_of_passedOver {input : Bytes} {fault : Fault}
    (h : passedOver.tells input fault) : fault ∈ RegionGateway.unreadable := by
  obtain ⟨passed, depth, rest, -, hskip, hread⟩ := h
  rcases Json.skip_followedBy depth passed () rest hskip with ⟨value, hvalue, -⟩ | ⟨other, hother, h⟩
  · rw [hread] at hvalue
    cases hvalue
  · rw [hread] at hother
    cases hother
    exact h

/-- A value that is passed over, where the other reader reads it. -/
theorem skip_followedBy_passedOver (depth : Nat) :
    Json.skip.FollowedBy .passedOver (fun _ _ => True) (Json.read depth) := by
  intro input a rest h
  rcases Json.skip_followedBy depth input a rest h with hvalue | ⟨fault, hfault, -⟩
  · exact .inl hvalue
  · exact .inr ⟨fault, hfault, input, depth, rest, List.suffix_refl input, h, hfault⟩

namespace Codec

/-- A JSON value stands for a typed one: both are read from one text. -/
def Means (codec : Codec α) (value : α) (json : Json) : Prop := ∃ depth input rest,
  codec.read depth input = .ok (value, rest) ∧ Json.read depth input = .ok (json, rest)

/-- Whatever is read with the codec can be read as a value of any kind, but for what is passed over. -/
def Followed (codec : Codec α) : Prop := ∀ depth,
  (codec.read depth).FollowedBy .passedOver codec.Means (Json.read depth)

section

variable {codec : Codec α} {related : α → Json → Prop}
  (h : ∀ depth, (codec.read depth).FollowedBy .passedOver related (Json.read depth))
include h

theorem followed_of : codec.Followed := by
  intro depth input a rest hread
  rcases h depth input a rest hread with ⟨json, hjson, -⟩ | hfault
  · exact .inl ⟨json, hjson, depth, input, rest, hread, hjson⟩
  · exact .inr hfault

theorem Means.stands {value : α} {json : Json} (hmeans : codec.Means value json) :
    related value json := by
  obtain ⟨depth, input, rest, hread, hjson⟩ := hmeans
  rcases h depth input value rest hread with ⟨other, hother, hrelated⟩ | ⟨fault, hfault, -⟩
  · rw [hjson] at hother
    cases hother
    exact hrelated
  · rw [hjson] at hfault
    cases hfault

end

/-! ## Scalars and lists -/

theorem scalar_followedBy {expected : Expected} {accept : Scalar → Reader α}
    {related : α → Json → Prop}
    (haccept : ∀ s, (accept s).FollowedBy .passedOver related (pure (Json.ofScalar s))) (depth : Nat) :
    (scalar expected accept depth).FollowedBy .passedOver related (Json.read depth) := by
  obtain ⟨list, object, hread⟩ := Json.read_eq_anyValue depth
  rw [hread]
  exact followedBy_anyValue haccept (followedBy_fail _ _) (followedBy_fail _ _)

theorem text_followedBy (depth : Nat) : (text.read depth).FollowedBy .passedOver
    (fun s json => json = .str s) (Json.read depth) := by
  dsimp only [text]
  refine scalar_followedBy (fun s => ?_) depth
  cases s with
  | str s => exact followedBy_pure rfl
  | _ => exact followedBy_fail _ _

theorem natural_followedBy (expected : Expected) (bound depth : Nat) :
    ((natural expected bound).read depth).FollowedBy .passedOver
      (fun n json => n < bound ∧ json = .int n) (Json.read depth) := by
  dsimp only [natural]
  refine scalar_followedBy (fun s => ?_) depth
  cases s with
  | int i =>
      by_cases hrange : 0 ≤ i ∧ i < bound
      · simp only [if_pos hrange]
        refine followedBy_pure ⟨by omega, ?_⟩
        rw [Json.ofScalar, Int.toNat_of_nonneg hrange.1]
      · simp only [if_neg hrange]
        exact followedBy_fail _ _
  | _ => exact followedBy_fail _ _

theorem u32_followedBy (depth : Nat) : (u32.read depth).FollowedBy .passedOver
    (fun n json => json = .int n.toNat) (Json.read depth) := by
  intro input n rest h
  obtain ⟨k, middle, hk, hn⟩ := bind_eq_ok.mp h
  cases hn
  rcases natural_followedBy .u32 UInt32.size depth input k rest hk with
    ⟨json, hjson, hbound, rfl⟩ | hfault
  · refine .inl ⟨_, hjson, ?_⟩
    show Json.int k = Json.int (UInt32.ofNat k).toNat
    rw [UInt32.toNat_ofNat_of_lt' hbound]
  · exact .inr hfault

theorem list_followedBy {item : Codec α} (hitem : item.Followed) (depth : Nat) :
    ((list item).read depth).FollowedBy .passedOver
      (fun values json => ∃ items, json = .arr items ∧ List.Forall₂ item.Means values items)
      (Json.read depth) := by
  dsimp only [list]
  cases depth with
  | zero =>
      rw [Json.read]
      exact followedBy_anyValue (fun _ => followedBy_fail _ _) (followedBy_fail _ _)
        (followedBy_fail _ _)
  | succ depth =>
      rw [Json.read]
      refine followedBy_anyValue (fun _ => followedBy_fail _ _) ?_ (followedBy_fail _ _)
      exact (followedBy_items (hitem depth) (Json.shortens_read depth)).map_right
        fun values items h => ⟨items, rfl, h⟩

end Codec

/-! ## Records -/

namespace Json

/-- The value of a record's field, which has a name in an object and a place in an array. -/
def field? (name : String) (place : Nat) : Json → Option Json
  | .obj members => lookup name members
  | .arr items => items[place]?
  | _ => none

theorem mem_of_lookup {name : String} {value : Json} {members : List (String × Json)}
    (h : lookup name members = some value) : (name, value) ∈ members := by
  induction members with
  | nil => cases h
  | cons m members ih =>
      obtain ⟨other, first⟩ := m
      rw [lookup] at h
      by_cases hname : name = other
      · rw [if_pos hname] at h
        cases h
        exact hname ▸ List.mem_cons_self
      · rw [if_neg hname] at h
        exact List.mem_cons_of_mem _ (ih h)

theorem lookup_insertMember (name : String) (value : Json) (members : List (String × Json)) :
    lookup name (insertMember name value members) = some value := by
  induction members with
  | nil => simp [insertMember, lookup]
  | cons m members ih =>
      obtain ⟨other, old⟩ := m
      simp only [insertMember]
      split
      · simp [lookup]
      · split
        · simp [lookup]
        · next hne _ => simp [lookup, hne, ih]

theorem lookup_insertMember_of_ne {name other : String} (h : other ≠ name) (value : Json)
    (members : List (String × Json)) :
    lookup other (insertMember name value members) = lookup other members := by
  induction members with
  | nil => simp [insertMember, lookup, h]
  | cons m members ih =>
      obtain ⟨first, old⟩ := m
      simp only [insertMember]
      split
      · next heq =>
          subst heq
          simp [lookup, h]
      · split
        · simp [lookup, h]
        · simp [lookup, ih]

end Json

namespace Members

/-- Every field has one name, which no other field has, and is followed. -/
def Followed : {σ τ : Type} → Members σ τ → Prop
  | _, _, .nil => True
  | _, _, .cons first rest =>
    (first.codec.Followed ∧ first.secondName = Option.none ∧ first.name ∉ rest.names) ∧ rest.Followed

/-- Every value is the one that a JSON value gives for its field, the first field being in some place;
or it gives none, and the value stands in for it. -/
def Given : {σ τ : Type} → Members σ τ → Nat → σ → Json → Prop
  | _, _, .nil, _, (), _ => True
  | _, _, .cons first rest, place, (value, values), json =>
    ((∃ given, json.field? first.name place = some given ∧ first.codec.Means value given) ∨
      (json.field? first.name place = Option.none ∧
        (first.absent = some value ∨ first.absentFromArray = some value))) ∧
    rest.Given (place + 1) values json

theorem Given.of_required {name : String} {codec : Codec α} {rest : Members σ τ} {place : Nat}
    {value : α} {values : σ} {json : Json}
    (h : (Members.cons (.required name codec) rest).Given place (value, values) json) :
    ∃ given, json.field? name place = some given ∧ codec.Means value given := by
  rcases h.1 with hgiven | ⟨-, habsent | habsent⟩
  · exact hgiven
  · cases habsent
  · cases habsent

theorem Given.of_defaulted {name : String} {codec : Codec α} {default value : α}
    {rest : Members σ τ} {place : Nat} {values : σ} {json : Json}
    (h : (Members.cons (.defaulted name codec default) rest).Given place (value, values) json) :
    (∃ given, json.field? name place = some given ∧ codec.Means value given) ∨
      (json.field? name place = Option.none ∧ value = default) := by
  rcases h.1 with hgiven | ⟨hnone, habsent | habsent⟩
  · exact .inl hgiven
  · cases habsent
    exact .inr ⟨hnone, rfl⟩
  · cases habsent
    exact .inr ⟨hnone, rfl⟩

/-! ### Records from objects -/

/-- What has been found so far is what the members so far give. -/
def Found : {σ τ : Type} → Members σ τ → τ → List (String × Json) → Prop
  | _, _, .nil, (), _ => True
  | _, _, .cons first rest, (found, others), list =>
    (match found with
      | some value => ∃ given, Json.lookup first.name list = some given ∧
          first.codec.Means value given
      | Option.none => Json.lookup first.name list = Option.none) ∧
    rest.Found others list

theorem found_none (members : Members σ τ) : members.Found members.none [] := by
  induction members with
  | nil => trivial
  | cons first rest ih => exact ⟨rfl, ih⟩

/-- A member with another name changes nothing. -/
theorem Found.insert {members : Members σ τ} {name : String} (hname : name ∉ members.names)
    (value : Json) {found : τ} {list : List (String × Json)} (h : members.Found found list) :
    members.Found found (Json.insertMember name value list) := by
  induction members with
  | nil => trivial
  | cons first rest ih =>
      obtain ⟨found, others⟩ := found
      have hne : first.name ≠ name := fun heq => hname (heq ▸ List.mem_cons_self)
      simp only [Found, Json.lookup_insertMember_of_ne hne]
      exact ⟨h.1, ih (fun hmem => hname (List.mem_cons_of_mem _ hmem)) h.2⟩

theorem fill_followedBy {members : Members σ τ} (hmembers : members.Followed) (depth : Nat)
    (name : String) {found : τ} {list : List (String × Json)} (hfound : members.Found found list) :
    (members.fill depth name found).FollowedBy .passedOver
      (fun after list' => ∃ value, list' = Json.insertMember name value list ∧ members.Found after list')
      (addMember depth name list) := by
  induction members with
  | nil =>
      -- the member of no field: its value is passed over here and read there
      refine followedBy_bind_left shortens_colon fun _ => ?_
      exact (skip_followedBy_passedOver depth).map_right fun _ value _ => ⟨value, rfl, trivial⟩
  | cons first rest ih =>
      obtain ⟨found, others⟩ := found
      obtain ⟨⟨hcodec, hsecond, hdistinct⟩, hrest⟩ := hmembers
      obtain ⟨hfirst, hothers⟩ := hfound
      by_cases hname : name = first.name
      · subst hname
        have hnamed : first.isNamed first.name = true := by simp [Member.isNamed]
        cases found with
        | some value =>
            simp only [fill, hnamed, if_true]
            exact followedBy_fail _ _
        | none =>
            simp only [fill, hnamed, if_true]
            refine followedBy_bind_left shortens_colon fun _ => ?_
            refine (hcodec depth).bind (Json.shortens_read depth) fun value given hmeans => ?_
            exact followedBy_pure ⟨given, rfl, ⟨given, Json.lookup_insertMember _ _ _, hmeans⟩,
              hothers.insert hdistinct given⟩
      · have hnamed : first.isNamed name = false := by simp [Member.isNamed, hname, hsecond]
        simp only [fill, hnamed, Bool.false_eq_true, if_false]
        intro input after left h
        obtain ⟨others', middle, hrest', hafter⟩ := bind_eq_ok.mp h
        cases hafter
        rcases ih hrest hothers input others' left hrest' with
          ⟨list', hlist, value, rfl, hfound'⟩ | hfault
        · refine .inl ⟨_, hlist, value, rfl, ?_, hfound'⟩
          rw [Json.lookup_insertMember_of_ne (fun heq => hname heq.symm)]
          exact hfirst
        · exact .inr hfault

theorem complete_cons_eq_ok {first : Member α} {rest : Members σ τ} {found : Option α} {others : τ}
    {value : α} {values : σ}
    (h : (Members.cons first rest).complete (found, others) = .ok (value, values)) :
    (found = some value ∨ found = Option.none ∧ first.absent = some value) ∧
      rest.complete others = .ok values := by
  have hrest : ∀ v : α, (do return (v, ← rest.complete others) : Except Fault (α × σ)) =
      .ok (value, values) → v = value ∧ rest.complete others = .ok values := by
    intro v hv
    cases hothers : rest.complete others with
    | error fault =>
        rw [hothers] at hv
        cases hv
    | ok values' =>
        rw [hothers] at hv
        cases hv
        exact ⟨rfl, rfl⟩
  simp only [complete] at h
  cases found with
  | some v =>
      obtain ⟨rfl, hvalues⟩ := hrest v h
      exact ⟨.inl rfl, hvalues⟩
  | none =>
      cases habsent : first.absent with
      | some v =>
          rw [habsent] at h
          obtain ⟨rfl, hvalues⟩ := hrest v h
          exact ⟨.inr ⟨rfl, rfl⟩, hvalues⟩
      | none =>
          rw [habsent] at h
          cases h

theorem given_of_complete {members : Members σ τ} {found : τ} {list : List (String × Json)}
    (hfound : members.Found found list) {values : σ} (h : members.complete found = .ok values)
    (place : Nat) : members.Given place values (.obj list) := by
  induction members generalizing place with
  | nil => trivial
  | cons first rest ih =>
      obtain ⟨found, others⟩ := found
      obtain ⟨hfirst, hothers⟩ := hfound
      obtain ⟨value, values⟩ := values
      obtain ⟨hvalue, hrest⟩ := complete_cons_eq_ok h
      refine ⟨?_, ih hothers hrest (place + 1)⟩
      rcases hvalue with rfl | ⟨rfl, habsent⟩
      · exact .inl hfirst
      · exact .inr ⟨hfirst, .inl habsent⟩

/-! ### Records from arrays -/

theorem anotherElement_false {first : Bool} {input rest : Bytes}
    (h : anotherElement first input = .ok (false, rest)) :
    ∃ tail, input.dropWhile isBlank = 0x5D :: tail ∧ rest = 0x5D :: tail := by
  cases hstripped : input.dropWhile isBlank with
  | nil =>
      rw [anotherElement, bind_ok _ (Json.peekToken_nil hstripped)] at h
      cases h
  | cons b tail =>
      rw [anotherElement, bind_ok _ (peekToken_stripped hstripped)] at h
      by_cases hclose : b = 0x5D
      · subst hclose
        cases h
        exact ⟨tail, rfl, rfl⟩
      · have hchar : Char.ofNat b.toNat ≠ ']' := fun hc => hclose (byte_of_char hc)
        generalize Char.ofNat b.toNat = c at h hchar
        simp only at h
        split at h
        · cases h
        · split at h
          · obtain ⟨_, _, -, h⟩ := bind_eq_ok.mp h
            obtain ⟨token, _, -, h⟩ := bind_eq_ok.mp h
            split at h <;> cases h
          · cases h

theorem anotherElement_close {input tail : Bytes} (h : input.dropWhile isBlank = 0x5D :: tail)
    (first : Bool) : anotherElement first input = .ok (false, 0x5D :: tail) := by
  rw [anotherElement, bind_ok _ (peekToken_stripped h)]
  rfl

theorem closeArray_eq_ok {input rest : Bytes} (h : Codec.closeArray input = .ok ((), rest)) :
    input.dropWhile isBlank = 0x5D :: rest := by
  cases hstripped : input.dropWhile isBlank with
  | nil =>
      rw [Codec.closeArray, bind_ok _ (Json.peekToken_nil hstripped)] at h
      cases h
  | cons b tail =>
      rw [Codec.closeArray, bind_ok _ (peekToken_stripped hstripped)] at h
      by_cases hclose : b = 0x5D
      · subst hclose
        cases h
        rfl
      · have hchar : Char.ofNat b.toNat ≠ ']' := fun hc => hclose (byte_of_char hc)
        generalize Char.ofNat b.toNat = c at h hchar
        by_cases hcomma : c = ','
        · subst hcomma
          obtain ⟨_, _, -, h⟩ := bind_eq_ok.mp h
          obtain ⟨token, _, -, h⟩ := bind_eq_ok.mp h
          split at h <;> cases h
        · simp only at h
          cases h

/-- At the end of an array, the values of the other fields are filled in. -/
theorem given_of_closed {members : Members σ τ} {depth place total : Nat} {record : String}
    {input middle tail : Bytes} {values : σ} (hclosed : input.dropWhile isBlank = 0x5D :: tail)
    (h : members.fromArray depth record total place input = .ok (values, middle)) {items : List Json}
    (hitems : items.length ≤ place) :
    middle.dropWhile isBlank = 0x5D :: tail ∧ members.Given place values (.arr items) := by
  induction members generalizing place input with
  | nil =>
      cases h
      exact ⟨hclosed, trivial⟩
  | cons first rest ih =>
      have hsame : (0x5D :: tail).dropWhile isBlank = 0x5D :: tail := by
        rw [← hclosed, List.dropWhile_idempotent]
      obtain ⟨value, values⟩ := values
      rw [fromArray, bind_ok _ (anotherElement_close hclosed _)] at h
      simp only [Bool.false_eq_true, if_false] at h
      cases habsent : first.absentFromArray with
      | none =>
          rw [habsent] at h
          cases h
      | some stand =>
          rw [habsent] at h
          obtain ⟨values', left, hrest, hpair⟩ := bind_eq_ok.mp h
          cases hpair
          obtain ⟨hmiddle, hgiven⟩ := ih hsame hrest (Nat.le_succ_of_le hitems)
          exact ⟨hmiddle, .inr ⟨List.getElem?_eq_none hitems, .inr habsent⟩, hgiven⟩

theorem runs_close (item : Reader β) (read : List β) {input tail : Bytes}
    (h : input.dropWhile isBlank = 0x5D :: tail) :
    Runs (itemsStep item) read input (.ok (read.reverse, 0x5D :: tail)) :=
  .done (itemsStep_done (anotherElement_close h _))

/-- The fields of a record, read from an array, against the loop over its elements. -/
theorem fromArray_runs {members : Members σ τ} (hmembers : members.Followed) {depth total : Nat}
    {record : String} (read : List Json) {input middle rest : Bytes} {values : σ}
    (h : members.fromArray depth record total read.length input = .ok (values, middle))
    (hclose : Codec.closeArray middle = .ok ((), rest)) :
    (∃ items, Runs (itemsStep (Json.read depth)) read input (.ok (read.reverse ++ items, 0x5D :: rest)) ∧
      members.Given read.length values (.arr (read.reverse ++ items))) ∨
    ∃ fault, Runs (itemsStep (Json.read depth)) read input (.error fault) ∧
      FaultKind.passedOver.tells input fault := by
  -- by the fields: each of them takes one step of the loop, and the end of the array the last one
  induction members generalizing read input with
  | nil =>
      cases h
      refine .inl ⟨[], ?_, trivial⟩
      rw [List.append_nil]
      exact runs_close _ read (closeArray_eq_ok hclose)
  | cons first others ih =>
      obtain ⟨⟨hcodec, -, -⟩, hothers⟩ := hmembers
      obtain ⟨value, values⟩ := values
      have hempty : (read.length == 0) = read.isEmpty := by cases read <;> rfl
      have hall := h
      rw [fromArray, hempty] at h
      obtain ⟨another, start, hnext, h⟩ := bind_eq_ok.mp h
      cases another with
      | false =>
          -- the array is too short for the remaining fields
          obtain ⟨tail, hclosed, -⟩ := anotherElement_false hnext
          have hlength : read.reverse.length ≤ read.length := by rw [List.length_reverse]
          obtain ⟨hmiddle, hgiven⟩ := given_of_closed hclosed hall hlength
          rw [closeArray_eq_ok hclose] at hmiddle
          cases hmiddle
          refine .inl ⟨[], ?_, ?_⟩
          · rw [List.append_nil]
            exact runs_close _ read hclosed
          · rw [List.append_nil]
            exact hgiven
      | true =>
          obtain ⟨value', left, hvalue, h⟩ := bind_eq_ok.mp h
          obtain ⟨values', middle', hvalues, hpair⟩ := bind_eq_ok.mp h
          cases hpair
          have hstart : start <:+ input := shortens_anotherElement _ input true start hnext
          rcases hcodec depth start value left hvalue with ⟨given, hgiven, hmeans⟩ | ⟨fault, hfault, htells⟩
          · have hstep := itemsStep_again hnext hgiven
            obtain ⟨hleft, hless⟩ := Json.read_takes depth start given left hgiven
            have hless : left.length < input.length := Nat.lt_of_lt_of_le hless hstart.length_le
            have hread : (given :: read).reverse = read.reverse ++ [given] := List.reverse_cons
            rcases ih hothers (given :: read) hvalues with ⟨items, hruns, hrest⟩ | ⟨fault, hruns, htells⟩
            · rw [hread, List.append_assoc, List.singleton_append] at hruns hrest
              have hplace : (read.reverse ++ given :: items)[read.length]? = some given := by
                rw [List.getElem?_append_right (by simp)]
                simp
              exact .inl ⟨given :: items, .again hstep hless hruns,
                .inl ⟨given, hplace, hmeans⟩, hrest⟩
            · exact .inr ⟨fault, .again hstep hless hruns,
                FaultKind.passedOver.inherited (hleft.trans hstart) htells⟩
          · exact .inr ⟨fault, .stop (itemsStep_error hnext hfault),
              FaultKind.passedOver.inherited hstart htells⟩

end Members

namespace Codec

variable {name : String} {members : Members σ τ} (hmembers : members.Followed)
include hmembers

theorem recordFromArray_followedBy (depth : Nat) :
    (recordFromArray name members depth).FollowedBy .passedOver
      (fun values json => members.Given 0 values json)
      (items (Json.read depth) >>= fun items => return .arr items) := by
  rw [items_eq, recordFromArray, bind_assoc]
  refine followedBy_bind_left shortens_advance fun _ => ?_
  intro input values rest h
  obtain ⟨values', middle, hvalues, h⟩ := bind_eq_ok.mp h
  obtain ⟨_, left, hclose, hpair⟩ := bind_eq_ok.mp h
  cases hpair
  rcases Members.fromArray_runs hmembers [] hvalues hclose with ⟨items, hruns, hgiven⟩ | ⟨fault, hruns, htells⟩
  · refine .inl ⟨.arr items, ?_, hgiven⟩
    rw [bind_assoc, bind_ok _ (loop_eq_of_runs hruns)]
    rfl
  · refine .inr ⟨fault, ?_, htells⟩
    rw [bind_assoc, bind_error _ (loop_eq_of_runs hruns)]

theorem recordFromObject_followedBy (depth : Nat) :
    (recordFromObject members depth).FollowedBy .passedOver
      (fun values json => members.Given 0 values json)
      (Reader.members (addMember depth) [] >>= fun list => return .obj list) := by
  have hfill : ∀ name found list, members.Found found list →
      (members.fill depth name found).FollowedBy .passedOver members.Found
        (addMember depth name list) := by
    intro name found list hfound
    exact (Members.fill_followedBy hmembers depth name hfound).mono fun after list' ⟨_, _, h⟩ => h
  have hshort : (Reader.members (addMember depth) []).Shortens :=
    shortens_members (Json.shortens_addMember depth) []
  refine (followedBy_members hfill (Json.shortens_addMember depth) members.found_none).bind hshort
    fun found list hfound => ?_
  cases hcomplete : members.complete found with
  | error fault => exact followedBy_fail _ _
  | ok values => exact followedBy_pure (Members.given_of_complete hfound hcomplete 0)

/-- A record can be read as a value of any kind, which gives or does not give each of its fields. -/
theorem tuple_followedBy (depth : Nat) :
    ((tuple name members).read depth).FollowedBy .passedOver
      (fun values json => members.Given 0 values json) (Json.read depth) := by
  dsimp only [tuple]
  cases depth with
  | zero =>
      rw [Json.read]
      exact followedBy_anyValue (fun _ => followedBy_fail _ _) (followedBy_fail _ _)
        (followedBy_fail _ _)
  | succ depth =>
      rw [Json.read]
      exact followedBy_anyValue (fun _ => followedBy_fail _ _)
        (recordFromArray_followedBy hmembers depth) (recordFromObject_followedBy hmembers depth)

theorem record_followedBy (make : σ → α) (parts : α → σ) (depth : Nat) :
    ((record name members make parts).read depth).FollowedBy .passedOver
      (fun value json => ∃ values, value = make values ∧ members.Given 0 values json)
      (Json.read depth) := by
  intro input value rest h
  obtain ⟨values, middle, hvalues, hmake⟩ := bind_eq_ok.mp h
  cases hmake
  rcases tuple_followedBy hmembers depth input values rest hvalues with ⟨json, hjson, hgiven⟩ | hfault
  · exact .inl ⟨json, hjson, values, rfl, hgiven⟩
  · exact .inr hfault

omit hmembers in
/-- A text that is decoded has a value of any kind, or something in it is passed over that has none. -/
theorem Followed.decode {codec : Codec α} (h : codec.Followed) {text : Bytes} {value : α}
    (hdecode : codec.decode text = .ok value) :
    (∃ json, Json.parse text = .ok json ∧ codec.Means value json) ∨
      ∃ fault, Json.parse text = .error fault ∧ FaultKind.passedOver.tells text fault := by
  unfold Codec.decode whole at hdecode
  cases hread : codec.read Json.maxDepth text with
  | error fault =>
      rw [hread] at hdecode
      cases hdecode
  | ok result =>
      obtain ⟨value', rest⟩ := result
      rw [hread] at hdecode
      dsimp only at hdecode
      split at hdecode
      · next hrest =>
          cases hdecode
          rcases h Json.maxDepth text value rest hread with ⟨json, hjson, hmeans⟩ | ⟨fault, hfault, htells⟩
          · refine .inl ⟨json, ?_, hmeans⟩
            simp only [Json.parse, whole, hjson, hrest, if_true]
          · refine .inr ⟨fault, ?_, htells⟩
            simp only [Json.parse, whole, hfault]
      · cases hdecode

end Codec

end RegionGateway
