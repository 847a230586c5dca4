import RegionGateway.Proofs.Json.TypedRead
import RegionGateway.Proofs.Widgets.Calls

/-!
# Updates read their body twice

The handler of an update decodes its body as a widget, passing over what it does not know, and then
reads the same body as a value of any kind to find out which fields were sent.

* `update_refused_iff`: a body that is decoded is refused after all exactly if something that was
  passed over cannot be read;
* `mask_exact_iff`: when the list of fields says what was sent. The widget is read from members with
  exactly the names of its fields, or from arrays by place; the list of fields comes from members with
  these names up to case and underscores, and never from arrays.
-/

namespace RegionGateway.Widgets

/-! ## One body, two readings -/

theorem WidgetKey.members_followed : Members.Followed
    (.cons (.defaulted "name" .text "") <| .cons (.defaulted "organization" .text "") .nil) := by
  have htext : Codec.text.Followed := Codec.followed_of Codec.text_followedBy
  simp [Members.Followed, Members.names, Member.defaulted, htext]

theorem WidgetKey.followed : WidgetKey.codec.Followed :=
  Codec.followed_of (Codec.record_followedBy WidgetKey.members_followed _ _)

theorem Widget.members_followed : Members.Followed
    (.cons (.defaulted "fields" (.list .text) []) <|
      .cons (.defaulted "key" WidgetKey.codec ⟨"", ""⟩) <| .cons (.defaulted "size" .u32 0) .nil) := by
  have htext : Codec.text.Followed := Codec.followed_of Codec.text_followedBy
  have hlist : (Codec.list .text).Followed := Codec.followed_of (Codec.list_followedBy htext)
  have hsize : Codec.u32.Followed := Codec.followed_of Codec.u32_followedBy
  simp [Members.Followed, Members.names, Member.defaulted, hlist, hsize, WidgetKey.followed]

theorem Widget.followed : Widget.codec.Followed :=
  Codec.followed_of (Codec.record_followedBy Widget.members_followed _ _)

theorem wrapped_members_followed : Members.Followed
    (.cons (.required "Region" .text) <| .cons (.required "Widget" Widget.codec) .nil) := by
  have htext : Codec.text.Followed := Codec.followed_of Codec.text_followedBy
  simp [Members.Followed, Members.names, Member.required, htext, Widget.followed]

theorem wrapped_followed : Widget.type.wrapped.Followed :=
  Codec.followed_of (Codec.record_followedBy wrapped_members_followed _ _)

theorem decodeRequest_eq_ok {α : Type} {codec : Codec α} {body : Bytes} {value : α}
    (h : decodeRequest codec body = .ok value) : codec.decode body = .ok value := by
  unfold decodeRequest at h
  cases hdecode : codec.decode body with
  | error fault =>
      rw [hdecode] at h
      cases h
  | ok decoded =>
      rw [hdecode] at h
      cases h
      rfl

/-- Why a body that is decoded as a widget has no value: something in it is passed over when the widget
is decoded, and cannot be read. -/
def Unreadable (body : Bytes) (error : GatewayError) : Prop :=
  ∃ fault ∈ unreadable, error = .badRequest fault.message ∧ Json.parse body = .error fault ∧
    FaultKind.passedOver.tells body fault

/-- **What an update refuses.** A request that is decoded has its list of fields derived from the body
unless it has one already. That fails, and an update of a widget is refused that could be created, if
and only if the list is empty and something that was passed over cannot be read: a number out of range,
half of a surrogate pair, bytes that are not UTF-8, or brackets nested too deeply. -/
theorem update_refused_iff {body : Bytes} {request : RegionObject Widget}
    (h : bound "CreateWidget" body = .ok request) :
    (∀ name table error, UpdateMask.apply body name table request.object.fields = .error error ↔
      request.object.fields = [] ∧ Unreadable body error) ∧
    (∀ error, bound "UpdateWidget" body = .error error ↔
      request.object.fields = [] ∧ Unreadable body error) := by
  rw [bound_of_ne (by decide)] at h
  have hderived : ∀ name table error,
      UpdateMask.apply body name table request.object.fields = .error error ↔
        request.object.fields = [] ∧ Unreadable body error := by
    intro name table error
    by_cases hfields : request.object.fields = []
    · rw [hfields]
      rcases wrapped_followed.decode (decodeRequest_eq_ok h) with ⟨json, hjson, -⟩ | ⟨fault, hfault, htells⟩
      · rw [UpdateMask.apply_ok hjson]
        constructor
        · rintro ⟨⟩
        · rintro ⟨-, fault, -, -, hfault, -⟩
          rw [hjson] at hfault
          cases hfault
      · rw [UpdateMask.apply_error hfault]
        constructor
        · rintro ⟨⟩
          exact ⟨rfl, fault, FaultKind.unreadable_of_passedOver htells, rfl, hfault, htells⟩
        · rintro ⟨-, other, -, rfl, hother, -⟩
          rw [hfault] at hother
          cases hother
          rfl
    · rw [UpdateMask.apply_given hfields]
      simp [hfields]
  refine ⟨hderived, fun error => ?_⟩
  rw [bound_update h, ← hderived "Widget" updatedFields error]
  cases UpdateMask.apply body "Widget" updatedFields request.object.fields with
  | error other =>
      constructor
      · rintro ⟨⟩
        rfl
      · rintro ⟨⟩
        rfl
  | ok fields =>
      constructor
      · rintro ⟨⟩
      · rintro ⟨⟩

/-- A widget with a number out of range under a name that no field has. -/
def outOfRangeBody : Bytes :=
  Utf8.bytes "\x7b\"Region\":\"local\",\"Widget\":\x7b\"x\":1e999\x7d\x7d"

theorem bound_outOfRange :
    bound "CreateWidget" outOfRangeBody = .ok ⟨"local", ⟨[], ⟨"", ""⟩, 0⟩⟩ ∧
    bound "UpdateWidget" outOfRangeBody = .error (.badRequest "number out of range") := by
  decide +kernel

/-- The number that nobody asked for is why the widget cannot be updated. -/
theorem update_refused_iff_out_of_range :
    bound "CreateWidget" outOfRangeBody = .ok ⟨"local", ⟨[], ⟨"", ""⟩, 0⟩⟩ ∧
    Unreadable outOfRangeBody (.badRequest "number out of range") :=
  ⟨bound_outOfRange.1,
    (((update_refused_iff bound_outOfRange.1).2 _).mp bound_outOfRange.2).2⟩

/-- A body can be decoded as a request and refused when the fields it sends are looked for. -/
theorem decoded_body_refused :
    ∃ body request, decodeRequest Widget.type.wrapped body = .ok request ∧
      bound "CreateWidget" body = .ok request ∧
      (∃ error, UpdateMask.apply body "Widget" updatedFields request.object.fields = .error error) ∧
      bound "UpdateWidget" body = .error (.badRequest "number out of range") :=
  ⟨outOfRangeBody, ⟨"local", ⟨[], ⟨"", ""⟩, 0⟩⟩,
    (bound_of_ne (by decide) outOfRangeBody).symm.trans bound_outOfRange.1, bound_outOfRange.1,
    ⟨.badRequest "number out of range", by decide +kernel⟩, bound_outOfRange.2⟩

/-! ## What an update names -/

/-- The parts of a widget that an update can name. -/
inductive Field where
  | key
  | name
  | organization
  | size
  deriving DecidableEq

namespace Field

/-- The path of a field in the table of an update. -/
def path : Field → String
  | .key => "key"
  | .name => "key.name"
  | .organization => "key.organization"
  | .size => "size"

/-- The id of a field. -/
def id : Field → String
  | .key => "2"
  | .name => "2.1"
  | .organization => "2.2"
  | .size => "3"

/-- The fields by whose id a field is named: the key stands for what it consists of. -/
def namers : Field → List Field
  | .name => [.name, .key]
  | .organization => [.organization, .key]
  | field => [field]

/-- The value from which a field of the widget is read, if the value of the body has it. -/
def sent? (json : Json) : Field → Option Json
  | .key => json.field? "Widget" 1 >>= Json.field? "key" 1
  | .name => json.field? "Widget" 1 >>= Json.field? "key" 1 >>= Json.field? "name" 0
  | .organization => json.field? "Widget" 1 >>= Json.field? "key" 1 >>= Json.field? "organization" 1
  | .size => json.field? "Widget" 1 >>= Json.field? "size" 2

theorem fold_path (field : Field) : UpdateMask.fold field.path = field.path := by
  cases field <;> decide +kernel

theorem mem_updatedFields {path id : String} :
    (path, id) ∈ updatedFields ↔ ∃ field : Field, field.path = path ∧ field.id = id := by
  constructor
  · intro h
    simp only [updatedFields, List.mem_cons, Prod.mk.injEq, List.not_mem_nil, or_false] at h
    rcases h with ⟨rfl, rfl⟩ | ⟨rfl, rfl⟩ | ⟨rfl, rfl⟩ | ⟨rfl, rfl⟩
    · exact ⟨.key, rfl, rfl⟩
    · exact ⟨.name, rfl, rfl⟩
    · exact ⟨.organization, rfl, rfl⟩
    · exact ⟨.size, rfl, rfl⟩
  · rintro ⟨field, rfl, rfl⟩
    cases field <;> decide

theorem id_injective : Function.Injective id := by
  intro field other
  cases field <;> cases other <;> decide

/-- The ids on a derived list are those of the fields whose paths are present. -/
theorem mem_mask {members : List (String × Json)} {id : String} :
    id ∈ UpdateMask.select updatedFields (UpdateMask.memberPaths "" members) ↔
      ∃ field : Field, field.id = id ∧ UpdateMask.Present members field.path := by
  rw [UpdateMask.mem_select]
  constructor
  · rintro ⟨path, hmem, hpresent⟩
    obtain ⟨field, rfl, rfl⟩ := mem_updatedFields.mp hmem
    rw [fold_path, UpdateMask.mem_present] at hpresent
    exact ⟨field, rfl, hpresent⟩
  · rintro ⟨field, rfl, hpresent⟩
    refine ⟨field.path, mem_updatedFields.mpr ⟨field, rfl, rfl⟩, ?_⟩
    rw [fold_path, UpdateMask.mem_present]
    exact hpresent

end Field

/-- Every field of a widget has the value that the body sends for it, or a default if it sends none. -/
structure Filled (json : Json) (widget : Widget) : Prop where
  name : Field.name.sent? json = some (.str widget.key.name) ∨
    Field.name.sent? json = none ∧ widget.key.name = ""
  organization : Field.organization.sent? json = some (.str widget.key.organization) ∨
    Field.organization.sent? json = none ∧ widget.key.organization = ""
  size : Field.size.sent? json = some (.int widget.size.toNat) ∨
    Field.size.sent? json = none ∧ widget.size = 0

/-- A list of ids says what a body sends: every id is that of a field that is sent, and every field
that is sent is named, by its own id or by that of the key around it. The key itself may be named by its
parts alone. -/
def Exact (json : Json) (ids : List String) : Prop :=
  (∀ id ∈ ids, ∃ field : Field, field.id = id ∧ (field.sent? json).isSome) ∧
  ∀ field : Field, field ≠ .key → (field.sent? json).isSome →
    ∃ namer ∈ field.namers, namer.id ∈ ids

/-! ### The typed reading -/

theorem WidgetKey.filled {key : WidgetKey} {json : Json} (h : WidgetKey.codec.Means key json) :
    (json.field? "name" 0 = some (.str key.name) ∨
      json.field? "name" 0 = none ∧ key.name = "") ∧
    (json.field? "organization" 1 = some (.str key.organization) ∨
      json.field? "organization" 1 = none ∧ key.organization = "") := by
  obtain ⟨⟨name, organization, ⟨⟩⟩, rfl, hgiven⟩ :=
    h.stands (Codec.record_followedBy WidgetKey.members_followed _ _)
  refine ⟨?_, ?_⟩
  · rcases hgiven.of_defaulted with ⟨given, hname, hmeans⟩ | hnone
    · rw [hname, hmeans.stands Codec.text_followedBy]
      exact .inl rfl
    · exact .inr hnone
  · rcases hgiven.2.of_defaulted with ⟨given, hname, hmeans⟩ | hnone
    · rw [hname, hmeans.stands Codec.text_followedBy]
      exact .inl rfl
    · exact .inr hnone

theorem Widget.filled {widget : Widget} {json : Json} (h : Widget.codec.Means widget json) :
    ((json.field? "key" 1 >>= Json.field? "name" 0 = some (.str widget.key.name) ∨
        json.field? "key" 1 >>= Json.field? "name" 0 = none ∧ widget.key.name = "") ∧
      (json.field? "key" 1 >>= Json.field? "organization" 1 = some (.str widget.key.organization) ∨
        json.field? "key" 1 >>= Json.field? "organization" 1 = none ∧ widget.key.organization = "")) ∧
    (json.field? "size" 2 = some (.int widget.size.toNat) ∨
      json.field? "size" 2 = none ∧ widget.size = 0) := by
  obtain ⟨⟨fields, key, size, ⟨⟩⟩, rfl, hgiven⟩ :=
    h.stands (Codec.record_followedBy Widget.members_followed _ _)
  refine ⟨?_, ?_⟩
  · rcases hgiven.2.of_defaulted with ⟨given, hkey, hmeans⟩ | ⟨hnone, rfl⟩
    · rw [hkey]
      exact WidgetKey.filled hmeans
    · rw [hnone]
      exact ⟨.inr ⟨rfl, rfl⟩, .inr ⟨rfl, rfl⟩⟩
  · rcases hgiven.2.2.of_defaulted with ⟨given, hsize, hmeans⟩ | hnone
    · rw [hsize, hmeans.stands Codec.u32_followedBy]
      exact .inl rfl
    · exact .inr hnone

theorem Filled.of_means {request : RegionObject Widget} {json : Json}
    (h : Widget.type.wrapped.Means request json) : Filled json request.object := by
  obtain ⟨⟨region, widget, ⟨⟩⟩, rfl, hgiven⟩ :=
    h.stands (Codec.record_followedBy wrapped_members_followed _ _)
  obtain ⟨inner, hinner, hmeans⟩ := hgiven.2.of_required
  obtain ⟨⟨hname, horganization⟩, hsize⟩ := Widget.filled hmeans
  constructor
  · rw [Field.sent?, hinner]
    exact hname
  · rw [Field.sent?, hinner]
    exact horganization
  · rw [Field.sent?, hinner]
    exact hsize

/-! ### The other reading -/

section

variable {json : Json} {members : List (String × Json)}
  (hobject : json.get? "Widget" = some (.obj members))
include hobject

theorem field_widget : json.field? "Widget" 1 = some (.obj members) := by
  cases json with
  | obj list => exact hobject
  | _ => cases hobject

/-- The path of a part of the key is present, or that of the key, if it is an array. -/
theorem key_part_present {part : String} {place : Nat} {text : String}
    (hpart : UpdateMask.fold part = part)
    (hsent : json.field? "Widget" 1 >>= Json.field? "key" 1 >>= Json.field? part place = some (.str text)) :
    UpdateMask.Present members ("key." ++ part) ∨ UpdateMask.Present members "key" := by
  have hfold : UpdateMask.fold "key" = "key" := Field.fold_path .key
  have hkept : UpdateMask.fold "key" ≠ "fields" := by
    rw [hfold]
    decide
  simp only [field_widget hobject, Option.bind_eq_bind, Option.bind_some] at hsent
  cases hkey : Json.field? "key" 1 (.obj members) with
  | none =>
      rw [hkey] at hsent
      cases hsent
  | some key =>
      have hmem : ("key", key) ∈ members := Json.mem_of_lookup hkey
      rw [hkey, Option.bind_some] at hsent
      cases key with
      | obj parts =>
          have hbelow : UpdateMask.below "key" part = "key." ++ part := by
            rw [UpdateMask.below, if_neg (by decide), hpart]
            rfl
          have hleaf : UpdateMask.Reaches (UpdateMask.below "key" part) (.str text) ("key." ++ part) :=
            hbelow ▸ .leaf trivial
          refine .inl ⟨"key", .obj parts, hmem, hkept, ?_⟩
          rw [hfold]
          exact .member (Json.mem_of_lookup hsent) (fun h => absurd h.1 (by decide)) hleaf
      | arr items =>
          refine .inr ⟨"key", .arr items, hmem, hkept, ?_⟩
          rw [hfold]
          exact .leaf trivial
      | _ => cases hsent

theorem size_present {n : Nat}
    (hsent : json.field? "Widget" 1 >>= Json.field? "size" 2 = some (.int n)) :
    UpdateMask.Present members "size" := by
  have hfold : UpdateMask.fold "size" = "size" := Field.fold_path .size
  rw [field_widget hobject] at hsent
  refine ⟨"size", .int n, Json.mem_of_lookup hsent, ?_, ?_⟩
  · rw [hfold]
    decide
  · rw [hfold]
    exact .leaf trivial

/-- Every field that is sent in an object is named. -/
theorem sent_named {widget : Widget} (hfilled : Filled json widget) {field : Field}
    (hfield : field ≠ .key) (hsent : (field.sent? json).isSome) :
    ∃ namer ∈ field.namers, UpdateMask.Present members namer.path := by
  -- that a field was read as a text or a number makes its value a leaf
  cases field with
  | key => exact absurd rfl hfield
  | name =>
      rcases hfilled.name with hname | ⟨hnone, -⟩
      · rcases key_part_present hobject (by decide +kernel) hname with h | h
        · exact ⟨.name, by decide, h⟩
        · exact ⟨.key, by decide, h⟩
      · rw [hnone] at hsent
        cases hsent
  | organization =>
      rcases hfilled.organization with horganization | ⟨hnone, -⟩
      · rcases key_part_present hobject (by decide +kernel) horganization with h | h
        · exact ⟨.organization, by decide, h⟩
        · exact ⟨.key, by decide, h⟩
      · rw [hnone] at hsent
        cases hsent
  | size =>
      rcases hfilled.size with hsize | ⟨hnone, -⟩
      · exact ⟨.size, by decide, size_present hobject hsize⟩
      · rw [hnone] at hsent
        cases hsent

end

/-- In an object, nothing is left out; the list is exact if and only if no other value has the path of
a field. -/
theorem exact_object {json : Json} {members : List (String × Json)} {widget : Widget}
    (hobject : json.get? "Widget" = some (.obj members)) (hfilled : Filled json widget) :
    Exact json (UpdateMask.select updatedFields (UpdateMask.memberPaths "" members)) ↔
      ∀ field : Field, UpdateMask.Present members field.path → (field.sent? json).isSome := by
  constructor
  · rintro ⟨hnamed, -⟩ field hfield
    obtain ⟨other, hid, hsent⟩ := hnamed field.id (Field.mem_mask.mpr ⟨field, rfl, hfield⟩)
    rw [← Field.id_injective hid]
    exact hsent
  · intro hsent
    refine ⟨fun id hid => ?_, fun field hfield hsome => ?_⟩
    · obtain ⟨field, rfl, hpath⟩ := Field.mem_mask.mp hid
      exact ⟨field, rfl, hsent field hpath⟩
    · obtain ⟨namer, hnamer, hpath⟩ := sent_named hobject hfilled hfield hsome
      exact ⟨namer, hnamer, Field.mem_mask.mpr ⟨namer, rfl, hpath⟩⟩

/-- The list that names nothing is exact if and only if nothing is sent. -/
theorem exact_nil {json : Json} :
    Exact json [] ↔ ∀ field : Field, field ≠ .key → field.sent? json = none := by
  constructor
  · rintro ⟨-, hnamed⟩ field hfield
    rw [← Option.not_isSome_iff_eq_none]
    intro hsome
    obtain ⟨namer, -, hmem⟩ := hnamed field hfield hsome
    exact List.not_mem_nil hmem
  · intro hnone
    refine ⟨fun id hid => absurd hid List.not_mem_nil, fun field hfield hsome => ?_⟩
    rw [hnone field hfield] at hsome
    cases hsome

/-- The backend is called with a request for an update as it is bound. -/
theorem update_called {body : Bytes} {request : RegionObject Widget}
    (h : bound "UpdateWidget" body = .ok request) {site : Site} {token : String}
    (hallowed : site.isTrusted token = true ∨ mayManage site token request.object = true)
    (events : List Event) :
    Event.called (contextOf site token request.region) (.updateWidget request.object) ∈
      (dispatch (handlers site.surroundings) (routePrefix ++ "UpdateWidget") (contextOf site token "")
        body ⟨.empty, events⟩).2.events := by
  have hdispatched := dispatch_allowed hallowed .update h events
  rw [Change.method] at hdispatched
  rw [hdispatched]
  cases Change.update.answer site (contextOf site token request.region) request.object <;>
    simp [exchanged, Change.call]

/-- **What an update names.** A request that is decoded without a list of fields, and accepted, reaches
the backend with a list derived from the body. Its widget has what the body sends for its fields, by
their exact names or, in arrays, by their places. The list names them by other rules. If the widget is
an object, every field that is sent is named, and the list is exact if and only if every field is sent
whose path is, up to case and underscores, that of a leaf of the object. If the widget or the whole
request is an array, nothing is named, and the list is exact if and only if nothing is sent. -/
theorem mask_exact_iff {body : Bytes} {decoded request : RegionObject Widget}
    (hdecoded : decodeRequest Widget.type.wrapped body = .ok decoded)
    (hempty : decoded.object.fields = []) (h : bound "UpdateWidget" body = .ok request) :
    (∀ (site : Site) token events,
      site.isTrusted token = true ∨ mayManage site token request.object = true →
        Event.called (contextOf site token request.region) (.updateWidget request.object) ∈
          (dispatch (handlers site.surroundings) (routePrefix ++ "UpdateWidget")
            (contextOf site token "") body ⟨.empty, events⟩).2.events) ∧
    ∃ json, Json.parse body = .ok json ∧ Filled json request.object ∧
      (∀ members, json.get? "Widget" = some (.obj members) →
        (∀ field : Field, field ≠ .key → (field.sent? json).isSome →
          ∃ namer ∈ field.namers, namer.id ∈ request.object.fields) ∧
        (Exact json request.object.fields ↔ ∀ field : Field,
          UpdateMask.Present members field.path → (field.sent? json).isSome)) ∧
      ((∀ members, json.get? "Widget" ≠ some (.obj members)) →
        request.object.fields = [] ∧
        (Exact json request.object.fields ↔ ∀ field : Field, field ≠ .key → field.sent? json = none)) := by
  refine ⟨fun site token events hallowed => update_called h hallowed events, ?_⟩
  rw [bound_update hdecoded, hempty] at h
  -- the body has a value, or the update would not have been accepted
  rcases wrapped_followed.decode (decodeRequest_eq_ok hdecoded) with ⟨json, hjson, hmeans⟩ | ⟨fault, hfault, -⟩
  · rw [UpdateMask.apply_ok hjson] at h
    cases h
    have hfilled : Filled json decoded.object := Filled.of_means hmeans
    refine ⟨json, hjson, ⟨hfilled.name, hfilled.organization, hfilled.size⟩,
      fun members hobject => ?_, fun hother => ?_⟩
    · have hsent : UpdateMask.sent? "Widget" updatedFields json =
          some (UpdateMask.select updatedFields (UpdateMask.memberPaths "" members)) := by
        rw [UpdateMask.sent?, hobject]
      rw [hsent, Option.getD_some]
      refine ⟨fun field hfield hsome => ?_, exact_object hobject hfilled⟩
      obtain ⟨namer, hnamer, hpath⟩ := sent_named hobject hfilled hfield hsome
      exact ⟨namer, hnamer, Field.mem_mask.mpr ⟨namer, rfl, hpath⟩⟩
    · have hsent : UpdateMask.sent? "Widget" updatedFields json = none := by
        unfold UpdateMask.sent?
        split
        · next members hobject => exact absurd hobject (hother members)
        · rfl
      rw [hsent, Option.getD_none]
      exact ⟨rfl, exact_nil⟩
  · rw [UpdateMask.apply_error hfault] at h
    cases h

/-- A widget whose size has a name that only differs in case. -/
def capitalValue : Json :=
  .obj [("Region", .str "local"), ("Widget", .obj [("Size", .int 5)])]

theorem capital_parsed : Json.parse capitalValue.bytes = .ok capitalValue := by
  have hplain : Json.Plain 127 capitalValue := by
    refine .obj (by simp [Json.Sorted]; decide) ?_
    simp only [List.mem_cons, List.not_mem_nil, or_false, forall_eq_or_imp, forall_eq]
    refine ⟨.str, .obj (by simp [Json.Sorted]) ?_⟩
    simp only [List.mem_cons, List.not_mem_nil, or_false, forall_eq]
    exact .nat (by decide)
  exact (Json.any_reads hplain).decode

theorem bound_capital :
    decodeRequest Widget.type.wrapped capitalValue.bytes = .ok ⟨"local", ⟨[], ⟨"", ""⟩, 0⟩⟩ ∧
    bound "UpdateWidget" capitalValue.bytes = .ok ⟨"local", ⟨["3"], ⟨"", ""⟩, 0⟩⟩ := by
  decide +kernel

/-- The size is named although it has not been read. -/
theorem mask_exact_iff_capital :
    decodeRequest Widget.type.wrapped capitalValue.bytes = .ok ⟨"local", ⟨[], ⟨"", ""⟩, 0⟩⟩ ∧
    bound "UpdateWidget" capitalValue.bytes = .ok ⟨"local", ⟨["3"], ⟨"", ""⟩, 0⟩⟩ ∧
    Filled capitalValue ⟨["3"], ⟨"", ""⟩, 0⟩ ∧ ¬Exact capitalValue ["3"] := by
  obtain ⟨hdecoded, hbound⟩ := bound_capital
  obtain ⟨-, json, hjson, hfilled, hobject, -⟩ := mask_exact_iff hdecoded rfl hbound
  rw [capital_parsed] at hjson
  cases hjson
  refine ⟨hdecoded, hbound, hfilled, fun hexact => ?_⟩
  have hfold : UpdateMask.fold "Size" = "size" := by decide +kernel
  have hsize : UpdateMask.Present [("Size", .int 5)] Field.size.path := by
    refine ⟨"Size", .int 5, List.mem_cons_self, ?_, ?_⟩
    · rw [hfold]
      decide
    · rw [hfold]
      exact .leaf trivial
  exact absurd (((hobject _ rfl).2.mp hexact) .size hsize) (by decide)

/-- An update can name a field that it does not send, so that the backend overwrites it by a default. -/
theorem named_not_sent :
    ∃ body decoded request json, decodeRequest Widget.type.wrapped body = .ok decoded ∧
      decoded.object.fields = [] ∧ bound "UpdateWidget" body = .ok request ∧
      Json.parse body = .ok json ∧ Filled json request.object ∧
      Field.size.id ∈ request.object.fields ∧ Field.size.sent? json = none ∧
      ¬Exact json request.object.fields := by
  refine ⟨capitalValue.bytes, ⟨"local", ⟨[], ⟨"", ""⟩, 0⟩⟩, ⟨"local", ⟨["3"], ⟨"", ""⟩, 0⟩⟩,
    capitalValue, bound_capital.1, rfl, bound_capital.2, capital_parsed, ⟨.inr ⟨rfl, rfl⟩, .inr ⟨rfl, rfl⟩,
      .inr ⟨rfl, rfl⟩⟩, by decide, rfl, ?_⟩
  rintro ⟨hnamed, -⟩
  obtain ⟨field, hid, hsent⟩ := hnamed "3" (by decide)
  obtain rfl : field = .size := Field.id_injective hid
  cases hsent

end RegionGateway.Widgets
