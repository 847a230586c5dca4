import Mathlib.Data.List.Forall2
import RegionGateway.Proofs.Gateway.UpdateMask
import RegionGateway.Proofs.Interface.FieldChains
import RegionGateway.Proofs.Rust.CaseConversion

/-!
# Paths and ids of fields

A dotted path is resolved segment by segment, along the first field that each segment names (`Resolves`,
`id?_eq_some_iff`). Where the fields of each message are told apart by their folded names, a segment names one
field only, in either spelling (`find?_names`), and a chain of fields is resolved from its path
(`RepeatFree.resolves`). Labels that tell fields apart tell chains apart too, also when they are joined by dots
(`nodup_joined`). Hence paths and ids are in one-to-one correspondence (`paths_correspond`).
-/

namespace RegionGateway

open Rust

/-! ## Names in Pascal case -/

namespace UpdateMask

theorem fold_capitalize {word : String} (h : ∀ c ∈ word.toList, isWordChar c = true) :
    fold (capitalize word) = fold word := by
  rw [fold, toList_capitalize fun c hc => h c (List.mem_of_mem_head? hc), fold]
  cases hword : word.toList with
  | nil => rfl
  | cons c cs =>
      have hc : isWordChar c = true := h c (hword ▸ List.mem_cons_self)
      have hsame : (c.toUpper != '_') = (c != '_') ∧ Text.lowerChar c.toUpper = Text.lowerChar c :=
        forall_wordChar (p := fun c => (c.toUpper != '_') = (c != '_') ∧
          Text.lowerChar c.toUpper = Text.lowerChar c) (by decide +kernel) hc
      rw [List.modifyHead_cons, List.filter_cons, List.filter_cons, hsame.1]
      split
      · rw [List.flatMap_cons, List.flatMap_cons, hsame.2]
      · rfl

/-- Names are not told apart from their Pascal case. -/
theorem fold_pascalCase {name : String} (h : IsWord name) : fold (pascalCase name) = fold name := by
  have hwords : ∀ word ∈ Text.split '_' name, fold (capitalize word) = fold word := by
    intro word hword
    refine fold_capitalize fun c hc => ?_
    obtain ⟨chars, hchars, rfl⟩ := List.mem_map.mp hword
    rw [String.toList_ofList] at hc
    exact h.2 c (Text.mem_of_mem_splitChars hchars hc)
  calc fold (pascalCase name)
      = Text.join "" ((Text.split '_' name).map fold) := by
        rw [pascalCase, fold_join, List.map_map]
        exact congrArg (Text.join "") (List.map_congr_left hwords)
    _ = fold (Text.join "_" (Text.split '_' name)) := by rw [fold_join, fold_underscore]
    _ = fold name := congrArg fold (@Text.join_split '_' name)

end UpdateMask

namespace FieldPath

variable {request : Request} {message : MessageDecl} {chain : List FieldPlace}

/-! ## Resolution -/

/-- The number of a field in decimal digits. -/
def numeral (field : FieldDecl) : String := String.ofList (Nat.toDigits 10 field.number.toNat)

/-- Segments of a path lead along fields: each names a field, as the first one, of the message type of the
field before. -/
inductive Resolves (request : Request) : MessageDecl → List String → List FieldDecl → Prop
  | last {message segment field} (found : message.fields.find? (names segment) = some field) :
      Resolves request message [segment] [field]
  | into {message segment field inner segments fields}
      (found : message.fields.find? (names segment) = some field)
      (type : request.fieldMessage? field = some inner) (rest : Resolves request inner segments fields) :
      Resolves request message (segment :: segments) (field :: fields)

theorem numbers?_eq_some_iff {segments numbers : List String} (hsegments : segments ≠ []) :
    numbers? request (some message) segments = some numbers ↔
      ∃ fields, Resolves request message segments fields ∧ fields.map numeral = numbers := by
  induction segments generalizing message numbers with
  | nil => exact absurd rfl hsegments
  | cons segment rest ih =>
      have hstep : numbers? request (some message) (segment :: rest) =
          (message.fields.find? (names segment)).bind fun field =>
            (numbers? request (request.fieldMessage? field) rest).map (numeral field :: ·) := by
        rw [numbers?]
        simp only [Option.map_eq_bind]
        rfl
      rw [hstep]
      constructor
      · intro h
        obtain ⟨field, hfound, h⟩ := Option.bind_eq_some_iff.mp h
        obtain ⟨others, hothers, rfl⟩ := Option.map_eq_some_iff.mp h
        by_cases hrest : rest = []
        · subst hrest
          cases hothers
          exact ⟨[field], .last hfound, rfl⟩
        · cases htype : request.fieldMessage? field with
          | none =>
              obtain ⟨next, later, rfl⟩ := List.exists_cons_of_ne_nil hrest
              rw [htype] at hothers
              cases hothers
          | some inner =>
              rw [htype] at hothers
              obtain ⟨fields, hresolves, rfl⟩ := (ih hrest).mp hothers
              exact ⟨field :: fields, .into hfound htype hresolves, rfl⟩
      · rintro ⟨fields, hresolves, rfl⟩
        cases hresolves with
        | last hfound => rw [hfound]; rfl
        | @into _ _ field inner _ fields hfound htype hresolves =>
            have hne : rest ≠ [] := by
              rintro rfl
              cases hresolves
            rw [hfound, Option.bind_some, htype, (ih hne).mpr ⟨fields, hresolves, rfl⟩]
            rfl

/-- The id of a path is that of the fields along which it is resolved. -/
theorem id?_eq_some_iff {path id : String} : id? request message path = some id ↔
    ∃ fields, Resolves request message (Text.split '.' path) fields ∧
      Text.join "." (fields.map numeral) = id := by
  have hne : Text.split '.' path ≠ [] := by simpa [Text.split] using Text.splitChars_ne_nil path.toList
  rw [id?, Option.map_eq_some_iff]
  constructor
  · rintro ⟨numbers, hnumbers, rfl⟩
    obtain ⟨fields, hresolves, rfl⟩ := (numbers?_eq_some_iff hne).mp hnumbers
    exact ⟨fields, hresolves, rfl⟩
  · rintro ⟨fields, hresolves, rfl⟩
    exact ⟨_, (numbers?_eq_some_iff hne).mpr ⟨fields, hresolves, rfl⟩, rfl⟩

theorem names_iff {segment : String} {field : FieldDecl} :
    names segment field = true ↔ segment = field.name ∨ segment = pascalCase field.name := by
  rw [names, Bool.or_eq_true, beq_iff_eq, beq_iff_eq, eq_comm, @eq_comm _ _ segment]

/-! ## Chains told apart by their labels -/

/-- A label tells the fields of each message apart, and has no dots. -/
structure Tells (label : FieldDecl → String) (messages : List MessageDecl) : Prop where
  apart : ∀ message ∈ messages, (message.fields.map label).Nodup
  no_dot : ∀ message ∈ messages, ∀ field ∈ message.fields, '.' ∉ (label field).toList

section

variable {label : FieldDecl → String} (htells : Tells label (message :: request.messages))
include htells

theorem Tells.inner {field : FieldDecl} {inner : MessageDecl} (htype : request.fieldMessage? field = some inner) :
    Tells label (inner :: request.messages) where
  apart declared hdeclared := htells.apart declared (Request.mem_of_inner htype hdeclared)
  no_dot declared hdeclared := htells.no_dot declared (Request.mem_of_inner htype hdeclared)

theorem Tells.place_eq {place other : FieldPlace} (hplace : place.message = message)
    (hother : other.message = message) (hlabel : label place.field = label other.field) : place = other := by
  obtain ⟨_, position⟩ := place
  obtain ⟨_, next⟩ := other
  dsimp only at hplace hother
  subst hplace hother
  have hnodup := htells.apart _ List.mem_cons_self
  have hget := List.nodup_iff_injective_get.mp hnodup.of_map
  have hfield := List.inj_on_of_nodup_map hnodup (List.get_mem _ position) (List.get_mem _ next) hlabel
  rw [hget hfield]

/-- Two chains from a message whose fields have the same labels are the same. -/
theorem Tells.chain_eq {other : List FieldPlace} (h : RepeatFree request message chain)
    (hother : RepeatFree request message other)
    (hlabels : (chain.map fun place => label place.field) = other.map fun place => label place.field) :
    chain = other := by
  induction chain generalizing message other with
  | nil => exact absurd rfl h.ne_nil
  | cons place rest ih =>
      obtain ⟨next, later, rfl⟩ := List.exists_cons_of_ne_nil hother.ne_nil
      obtain ⟨hlabel, htail⟩ := List.cons.inj hlabels
      obtain rfl := htells.place_eq (Option.some.inj h.starts) (Option.some.inj hother.starts) hlabel
      by_cases hrest : rest = []
      · subst hrest
        rw [List.map_eq_nil_iff.mp htail.symm]
      · have hlater : later ≠ [] := by
          rintro rfl
          exact hrest (List.map_eq_nil_iff.mp htail)
        obtain ⟨-, inner, htype, hinner, -⟩ := (RepeatFree.cons_iff hrest).mp h
        obtain ⟨-, inner', htype', hinner', -⟩ := (RepeatFree.cons_iff hlater).mp hother
        obtain rfl := Option.some.inj (htype.symm.trans htype')
        rw [ih (htells.inner htype) hinner hinner' htail]

theorem Tells.split_join (h : RepeatFree request message chain) :
    Text.split '.' (Text.join "." (chain.map fun place => label place.field)) =
      chain.map fun place => label place.field := by
  refine Text.split_join (by simpa using h.ne_nil) ?_
  rw [List.forall_mem_map]
  exact h.forall_field htells.no_dot

/-- Joined by dots, the labels tell chains apart. -/
theorem Tells.nodup_joined :
    ((chains request message).map fun chain => Text.join "." (chain.map fun place => label place.field)).Nodup := by
  refine List.Nodup.map_on ?_ (nodup_chains request message)
  intro chain hchain other hother hsame
  rw [mem_chains] at hchain hother
  refine htells.chain_eq hchain hother ?_
  rw [← htells.split_join hchain, hsame, htells.split_join hother]

end

end FieldPath

/-! ## Messages that tell their fields apart -/

/-- The names of the fields are words that differ even if case and underscores are ignored, and the numbers
differ. -/
structure MessageDecl.TellsFields (message : MessageDecl) : Prop where
  words : ∀ field ∈ message.fields, IsWord field.name
  names : (message.fields.map fun field => UpdateMask.fold field.name).Nodup
  numbers : (message.fields.map fun field => field.number).Nodup

instance (message : MessageDecl) : Decidable message.TellsFields :=
  decidable_of_iff (_ ∧ _ ∧ _) ⟨fun h => ⟨h.1, h.2.1, h.2.2⟩, fun h => ⟨h.words, h.names, h.numbers⟩⟩

namespace FieldPath

variable {request : Request} {message : MessageDecl} {chain : List FieldPlace}

theorem numeral_inj {field other : FieldDecl} (h : numeral field = numeral other) :
    field.number = other.number := by
  have hdigits : Nat.toDigits 10 field.number.toNat = Nat.toDigits 10 other.number.toNat :=
    String.ofList_injective h
  have hnat := congrArg (fun digits => Nat.ofDigitChars 10 digits 0) hdigits
  rw [Nat.ofDigitChars_ten_toDigits, Nat.ofDigitChars_ten_toDigits] at hnat
  exact UInt32.toNat_inj.mp hnat

section

variable (htells : ∀ declared ∈ message :: request.messages, declared.TellsFields)
include htells

theorem tells_names : Tells (fun field => field.name) (message :: request.messages) where
  apart declared hdeclared := by
    have hnames := (htells declared hdeclared).names
    refine List.Nodup.of_map UpdateMask.fold ?_
    rwa [List.map_map]
  no_dot declared hdeclared field hfield := ((htells declared hdeclared).words field hfield).no_dot

theorem tells_numerals : Tells numeral (message :: request.messages) where
  apart declared hdeclared := by
    have hnumbers := (htells declared hdeclared).numbers
    refine List.Nodup.map_on ?_ hnumbers.of_map
    intro field hfield other hother hsame
    exact List.inj_on_of_nodup_map hnumbers hfield hother (numeral_inj hsame)
  no_dot declared _ field _ := (isWord_decimal field.number.toNat).no_dot

end

/-- A segment names one field of a message only. -/
theorem find?_names (htells : message.TellsFields) {segment : String} {field : FieldDecl}
    (hfield : field ∈ message.fields) (hnames : names segment field = true) :
    message.fields.find? (names segment) = some field := by
  have hfold : ∀ other ∈ message.fields, names segment other = true →
      UpdateMask.fold segment = UpdateMask.fold other.name := by
    intro other hother hnames
    rcases names_iff.mp hnames with rfl | rfl
    · rfl
    · exact UpdateMask.fold_pascalCase (htells.words other hother)
  cases hfound : message.fields.find? (names segment) with
  | none => exact absurd hnames (List.find?_eq_none.mp hfound field hfield)
  | some other =>
      have hother := List.mem_of_find?_eq_some hfound
      have hsame := (hfold other hother (List.find?_some hfound)).symm.trans (hfold field hfield hnames)
      rw [List.inj_on_of_nodup_map htells.names hother hfield hsame]

/-- A chain of fields is resolved from segments that name its fields. -/
theorem resolves_of_chain (htells : ∀ declared ∈ message :: request.messages, declared.TellsFields)
    (h : RepeatFree request message chain) {segments : List String}
    (hnames : List.Forall₂ (fun place segment => names segment place.field = true) chain segments) :
    Resolves request message segments (chain.map FieldPlace.field) := by
  induction chain generalizing message segments with
  | nil => exact absurd rfl h.ne_nil
  | cons place rest ih =>
      rcases hnames with _ | ⟨hsegment, hsegments⟩
      have hplace : place.message = message := Option.some.inj h.starts
      have hfound := find?_names (htells message List.mem_cons_self) (hplace ▸ place.field_mem) hsegment
      by_cases hrest : rest = []
      · subst hrest
        cases hsegments
        exact .last hfound
      · obtain ⟨-, inner, htype, hinner, -⟩ := (RepeatFree.cons_iff hrest).mp h
        exact .into hfound htype (ih (fun declared hdeclared =>
          htells declared (Request.mem_of_inner htype hdeclared)) hinner hsegments)

/-! ## Correspondence -/

/-- A segment is spelled as declared or in Pascal case. -/
def Spells (declared segment : String) : Prop := segment = declared ∨ segment = pascalCase declared

theorem no_dot_of_spells {segments : List String}
    (hspelled : List.Forall₂ (fun place segment => Spells place.field.name segment) chain segments)
    (hwords : ∀ place ∈ chain, IsWord place.field.name) : ∀ segment ∈ segments, '.' ∉ segment.toList := by
  induction hspelled with
  | nil => nofun
  | @cons place segment _ _ hspells _ ih =>
      obtain ⟨hword, hwords⟩ := List.forall_mem_cons.mp hwords
      refine List.forall_mem_cons.mpr ⟨?_, ih hwords⟩
      rcases hspells with rfl | rfl
      · exact hword.no_dot
      · exact fun hmem => absurd (pascalCase_word hword.2 '.' hmem) (by decide)

/-- How paths and ids of the fields reachable from a message correspond. -/
structure Correspond (request : Request) (message : MessageDecl) : Prop where
  paths : ((all request message).map (·.jsonPath)).Nodup
  ids : ((all request message).map (·.id)).Nodup
  /-- The id of a path is that of its entry. -/
  found : ∀ path ∈ all request message, id? request message path.jsonPath = some path.id
  /-- It is found as well with any of the segments in Pascal case. -/
  respelled : ∀ path ∈ all request message, ∀ segments,
    List.Forall₂ Spells (Text.split '.' path.jsonPath) segments →
      id? request message (Text.join "." segments) = some path.id

/-- **Paths and ids are in one-to-one correspondence.** For every request and every message: if the fields of
each message are told apart by name and by number, no two entries have the same path or the same id, and the
path of every entry is resolved to its id, in whatever spelling of its segments. -/
theorem paths_correspond (htells : ∀ declared ∈ message :: request.messages, declared.TellsFields) :
    Correspond request message := by
  have hnames := tells_names htells
  have hnumerals := tells_numerals htells
  have hrespelled : ∀ path ∈ all request message, ∀ segments,
      List.Forall₂ Spells (Text.split '.' path.jsonPath) segments →
        id? request message (Text.join "." segments) = some path.id := by
    intro path hpath segments hspelled
    rw [all_eq] at hpath
    obtain ⟨chain, hchain, rfl⟩ := List.mem_map.mp hpath
    rw [mem_chains] at hchain
    have hsplit : Text.split '.' (ofChain chain).jsonPath = chain.map fun place => place.field.name :=
      hnames.split_join hchain
    rw [hsplit, List.forall₂_map_left_iff] at hspelled
    have hsegments : Text.split '.' (Text.join "." segments) = segments := by
      refine Text.split_join ?_ ?_
      · rintro rfl
        cases hspelled
        exact hchain.ne_nil rfl
      · refine no_dot_of_spells hspelled (hchain.forall_field (p := fun field => IsWord field.name) ?_)
        exact fun declared hdeclared => (htells declared hdeclared).words
    rw [id?_eq_some_iff, hsegments]
    refine ⟨chain.map FieldPlace.field, resolves_of_chain htells hchain ?_, ?_⟩
    · exact hspelled.imp fun place segment h => names_iff.mpr h
    · rw [List.map_map]
      rfl
  refine ⟨?_, ?_, ?_, hrespelled⟩
  · rw [all_eq, List.map_map]
    exact hnames.nodup_joined
  · rw [all_eq, List.map_map]
    exact hnumerals.nodup_joined
  · intro path hpath
    have hsame := hrespelled path hpath _ (List.forall₂_same.mpr fun segment _ => .inl rfl)
    rwa [show Text.join "." (Text.split '.' path.jsonPath) = path.jsonPath from
      @Text.join_split '.' path.jsonPath] at hsame

/-- A lease, which may be a part of another one. -/
def lease : MessageDecl :=
  ⟨"Lease", [⟨"fields", 1, none⟩, ⟨"lease_key", 2, some "LeaseKey"⟩, ⟨"parent", 3, some "Lease"⟩,
    ⟨"org_1", 4, none⟩], false, false, none⟩

def leaseKey : MessageDecl :=
  ⟨"LeaseKey", [⟨"owner_org", 1, none⟩, ⟨"region", 2, none⟩], false, false, none⟩

def leases : Request := ⟨[⟨"lease.proto", [], [lease, leaseKey]⟩], [], none⟩

/-- The owner in the key of a lease has an id, with either part of its path in Pascal case. -/
theorem paths_correspond_lease : (∀ declared ∈ lease :: leases.messages, declared.TellsFields) ∧
    Correspond leases lease ∧ (all leases lease).map (·.jsonPath) =
      ["lease_key", "lease_key.owner_org", "lease_key.region", "parent", "org_1"] ∧
    List.Forall₂ Spells (Text.split '.' "lease_key.owner_org") ["LeaseKey", "owner_org"] := by
  have htells : ∀ declared ∈ lease :: leases.messages, declared.TellsFields := by decide +kernel
  refine ⟨htells, paths_correspond htells, by decide +kernel, ?_⟩
  have hsplit : Text.split '.' "lease_key.owner_org" = ["lease_key", "owner_org"] := by decide +kernel
  have hpascal : "LeaseKey" = pascalCase "lease_key" := by decide +kernel
  rw [hsplit]
  exact .cons (.inr hpascal) (.cons (.inl rfl) .nil)

end FieldPath

end RegionGateway
