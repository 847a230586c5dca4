import RegionGateway.Proofs.Json.AnyRead
import RegionGateway.Proofs.Json.RecordEnds
import RegionGateway.Widgets.Message

/-!
# Messages are read back

The codecs of widgets, of their wrappers and of replies read every message from the text that it is
written as. The same text is read back as a value of any kind too, which is how an update finds out
what was sent (`wrapped_plain`).
-/

namespace RegionGateway.Widgets

theorem WidgetKey.readsBack (depth : Nat) (key : WidgetKey) :
    WidgetKey.codec.ReadsBack (depth + 1) key := by
  refine Codec.record_readsBack rfl ?_ ?_
  · simp [Members.Distinct, Members.names, Member.isNamed, Member.defaulted]
  · exact ⟨Codec.text_readsBack depth key.name, Codec.text_readsBack depth key.organization, trivial⟩

theorem Widget.readsBack (depth : Nat) (widget : Widget) :
    Widget.codec.ReadsBack (depth + 2) widget := by
  refine Codec.record_readsBack rfl ?_ ?_
  · simp [Members.Distinct, Members.names, Member.isNamed, Member.defaulted]
  · refine ⟨Codec.list_readsBack fun field _ => Codec.text_readsBack depth field,
      WidgetKey.readsBack depth widget.key, Codec.u32_readsBack (depth + 1) widget.size, trivial⟩

theorem WidgetKey.local_codec : WidgetKey.codec.Local := by
  refine Codec.local_record ?_ _ _ _
  exact ⟨Codec.local_text, Codec.local_text, trivial⟩

/-- The reader of widgets sees at most one byte behind a widget. -/
theorem Widget.local_codec : Widget.codec.Local := by
  refine Codec.local_record ?_ _ _ _
  exact ⟨Codec.local_list Codec.local_text, WidgetKey.local_codec, Codec.local_u32, trivial⟩

theorem Reply.readsBack (depth : Nat) (reply : Reply) : Reply.codec.ReadsBack (depth + 1) reply := by
  refine Codec.record_readsBack rfl ?_ ?_
  · simp [Members.Distinct, Members.names]
  · exact ⟨Codec.text_readsBack depth reply.message, trivial⟩

theorem wrapped_readsBack (depth : Nat) (request : RegionObject Widget) :
    Widget.type.wrapped.ReadsBack (depth + 3) request := by
  refine Codec.record_readsBack rfl ?_ ?_
  · simp [Members.Distinct, Members.names, Member.isNamed, Member.required, Widget.type]
  · exact ⟨Codec.text_readsBack (depth + 2) request.region, Widget.readsBack depth request.object,
      trivial⟩

/-- The members of a widget in JSON. -/
def Widget.members (widget : Widget) : List (String × Json) :=
  [("fields", .arr (widget.fields.map .str)),
    ("key", .obj [("name", .str widget.key.name), ("organization", .str widget.key.organization)]),
    ("size", .int widget.size.toNat)]

theorem wrapped_write (request : RegionObject Widget) : Widget.type.wrapped.write request =
    .obj [("Region", .str request.region), ("Widget", .obj request.object.members)] := rfl

/-- A wrapper is a plain value: its names come in order, and so do those of the widget in it. -/
theorem wrapped_plain (depth : Nat) (request : RegionObject Widget) :
    Json.Plain (depth + 3) (Widget.type.wrapped.write request) := by
  have hsize : request.object.size.toNat ≤ NumberText.greatest :=
    Nat.le_trans (Nat.le_of_lt request.object.size.toNat_lt_size) (by decide)
  have hfields : Json.Plain (depth + 1) (.arr (request.object.fields.map .str)) := by
    refine .arr fun item hitem => ?_
    obtain ⟨field, -, rfl⟩ := List.mem_map.mp hitem
    exact .str
  have hkey : Json.Plain (depth + 1) (.obj [("name", .str request.object.key.name),
      ("organization", .str request.object.key.organization)]) := by
    refine .obj (by simp [Json.Sorted]; decide) ?_
    simp [Json.Plain.str]
  have hwidget : Json.Plain (depth + 2) (.obj request.object.members) := by
    refine .obj (by simp [Json.Sorted, Widget.members]; decide) ?_
    simp [Widget.members, hfields, hkey, Json.Plain.nat hsize]
  rw [wrapped_write]
  refine .obj (by simp [Json.Sorted]; decide) ?_
  simp [Json.Plain.str, hwidget]

theorem Widget.write_object (widget : Widget) : ∃ members, Widget.codec.write widget = .obj members :=
  ⟨_, rfl⟩

end RegionGateway.Widgets
