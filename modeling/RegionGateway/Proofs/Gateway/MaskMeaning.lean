import RegionGateway.Proofs.Gateway.MaskPaths
import RegionGateway.Proofs.Json.DistinctNames
import RegionGateway.Widgets.Message

/-!
# What an update mask says

The handler of an update sets the list of fields of its object in place. What that does to any object,
with any table and any body, is `UpdateMask.fill_meaning`.

* An entry of the table is listed if a leaf of the object is filed under its path (`Listed`). A leaf below
  a name that folds to nothing is taken for one that stands one level up (`blank_name_passed_over`).
* The order in which the members of objects are written, and the values of the leaves, make no difference
  (`Alike.leadsTo`).
-/

namespace RegionGateway

namespace UpdateMask

open Widgets (Widget)

/-! ## The entries of leaves -/

/-- An entry is listed: names lead to a leaf, those of them that count do not begin with `fields`, and the
path of the entry is made of them, without regard to case and underscores. -/
def Listed (members : List (String × Json)) (path : String) : Prop :=
  ∃ names, Leaf members names ∧ fold ((significant names).headD "") ≠ "fields" ∧
    fold path = fold (Text.join "." (significant names))

/-- An entry is named: names lead to a leaf, the first of them is not `fields`, and the path of the entry is
made of them all, without regard to case and underscores. -/
def Named (members : List (String × Json)) (path : String) : Prop :=
  ∃ names, Leaf members names ∧ fold (names.headD "") ≠ "fields" ∧
    fold path = fold (Text.join "." names)

theorem listed_iff {members : List (String × Json)} {path : String} :
    Listed members path ↔ fold path ∈ memberPaths "" members := by
  rw [mem_memberPaths_top]
  exact exists_congr fun names => and_congr_right fun hleaf => (filed_top hleaf.names_ne_nil).symm

instance (members : List (String × Json)) (path : String) : Decidable (Listed members path) :=
  decidable_of_iff _ listed_iff.symm

theorem select_eq (table : List (String × String)) (members : List (String × Json)) :
    select table (memberPaths "" members) =
      (table.filter fun entry => Listed members entry.1).map (·.2) := by
  have hentry : ∀ entry ∈ table, (memberPaths "" members).contains (fold entry.1) =
      decide (Listed members entry.1) := by
    intro entry _
    rw [Bool.eq_iff_iff, List.contains_iff_mem, decide_eq_true_iff, listed_iff]
  rw [select, List.filter_congr hentry]

/-- Where no name at the front is passed over, the entries that are listed are those that are named. -/
theorem listed_iff_named {members : List (String × Json)}
    (h : ∀ name value, (name, value) ∈ members → fold name = "" → IsLeaf value) {path : String} :
    Listed members path ↔ Named members path := by
  refine exists_congr fun names => and_congr_right fun hleaf => ?_
  have hsignificant : significant names = names := by
    cases hleaf with
    | here _ _ => rfl
    | inside hsent hrest =>
        refine significant_eq fun hblank => ?_
        obtain rfl := isLeaf_obj.mp (h _ _ hsent hblank)
        exact absurd hrest Leaf.ne_nil
  rw [hsignificant]

/-! ## Bodies that differ in their order and their leaves -/

/-- Values are alike: the names of members are distinct and stand in any order, and a leaf is like any
other. -/
inductive Alike : Json → Json → Prop
  | leaf {value other} (hvalue : IsLeaf value) (hother : IsLeaf other) : Alike value other
  | member {name value other members others} (hfresh : name ∉ members.map Prod.fst)
    (hfresh' : name ∉ others.map Prod.fst) (hvalue : Alike value other)
    (hrest : Alike (.obj members) (.obj others)) :
    Alike (.obj ((name, value) :: members)) (.obj ((name, other) :: others))
  | reordered {members permuted other} (hperm : members.Perm permuted)
    (h : Alike (.obj permuted) other) : Alike (.obj members) other

theorem distinct_of_isLeaf {value : Json} (h : IsLeaf value) : value.Distinct := by
  rintro members rfl
  rw [isLeaf_obj.mp h]
  exact List.nodup_nil

theorem get?_of_isLeaf {value : Json} (h : IsLeaf value) (name : String) : value.get? name = none := by
  cases value with
  | obj members => rw [isLeaf_obj.mp h]; rfl
  | _ => rfl

theorem distinct_cons {name : String} {value : Json} {members : List (String × Json)}
    (hfresh : name ∉ members.map Prod.fst) (h : (Json.obj members).Distinct) :
    (Json.obj ((name, value) :: members)).Distinct := by
  rintro _ ⟨⟩
  exact List.nodup_cons.mpr ⟨hfresh, h members rfl⟩

namespace Alike

variable {value other : Json}

theorem distinct (h : Alike value other) : value.Distinct ∧ other.Distinct := by
  induction h with
  | leaf hvalue hother => exact ⟨distinct_of_isLeaf hvalue, distinct_of_isLeaf hother⟩
  | member hfresh hfresh' _ _ _ ih => exact ⟨distinct_cons hfresh ih.1, distinct_cons hfresh' ih.2⟩
  | @reordered members permuted _ hperm _ ih =>
      refine ⟨?_, ih.2⟩
      rintro _ ⟨⟩
      exact (hperm.map Prod.fst).nodup_iff.mpr (ih.1 permuted rfl)

theorem isLeaf_iff (h : Alike value other) : IsLeaf value ↔ IsLeaf other := by
  induction h with
  | leaf hvalue hother => exact iff_of_true hvalue hother
  | member _ _ _ _ _ _ => exact Iff.rfl
  | reordered hperm _ ih =>
      rw [← ih, isLeaf_obj, isLeaf_obj]
      exact ⟨fun h => (h ▸ hperm).nil_eq.symm, fun h => (h ▸ hperm).eq_nil⟩

/-- The members of a name are alike. -/
theorem get? (h : Alike value other) (name : String) :
    Option.Rel Alike (value.get? name) (other.get? name) := by
  induction h with
  | leaf hvalue hother =>
      rw [get?_of_isLeaf hvalue, get?_of_isLeaf hother]
      exact .none
  | @member first _ _ _ _ _ _ hvalue _ _ ih =>
      rw [Json.get?, Json.get?, Json.lookup, Json.lookup]
      by_cases hname : name = first
      · rw [if_pos hname, if_pos hname]
        exact .some hvalue
      · rw [if_neg hname, if_neg hname]
        exact ih
  | @reordered members permuted _ hperm h ih =>
      have hnames := (h.reordered hperm).distinct.1 members rfl
      rw [Json.get?, Json.lookup_perm hperm hnames]
      exact ih

end Alike

theorem isLeaf_sorted {value : Json} (h : value.Distinct) : IsLeaf value.sorted ↔ IsLeaf value := by
  cases value with
  | obj members =>
      have hperm := Json.sorted_obj_perm (h members rfl)
      rw [Json.sorted, isLeaf_obj, isLeaf_obj]
      refine ⟨fun hsorted => ?_, fun hwritten => ?_⟩
      · exact List.map_eq_nil_iff.mp (hsorted ▸ hperm).nil_eq.symm
      · rw [hwritten, Json.sortedInto]
  | arr items =>
      rw [Json.sorted]
      exact Iff.rfl
  | _ => rw [Json.sorted]

theorem leadsTo_cons {value : Json} (h : value.Distinct) {name : String} {names : List String} :
    LeadsTo value (name :: names) ↔ ∃ inner, value.get? name = some inner ∧ LeadsTo inner names := by
  rw [LeadsTo, exists_comm]
  refine exists_congr fun inner => ?_
  rw [Json.get?_eq_some h]
  simp only [← and_assoc, exists_and_right]

/-- From values that are alike, the same names lead to leaves once their members are sorted. -/
theorem Alike.leadsTo {value other : Json} (h : Alike value other) (names : List String) :
    LeadsTo value.sorted names ↔ LeadsTo other.sorted names := by
  obtain ⟨hvalue, hother⟩ := h.distinct
  induction names generalizing value other with
  | nil => rw [LeadsTo, LeadsTo, isLeaf_sorted hvalue, isLeaf_sorted hother, h.isLeaf_iff]
  | cons name names ih =>
      have hget := h.get? name
      rw [leadsTo_cons hvalue.sorted, leadsTo_cons hother.sorted, Json.get?_sorted hvalue,
        Json.get?_sorted hother]
      generalize value.get? name = found, other.get? name = found' at hget
      cases hget with
      | none => exact Iff.rfl
      | some hinner =>
          have hrest := ih hinner hinner.distinct.1 hinner.distinct.2
          simp only [Option.map_some, Option.some.injEq, exists_eq_left', hrest]

/-! ## What is sent under a name -/

variable {name : String} {table : List (String × String)}

/-- Whether a value has an object under a name. -/
def HasObject (name : String) (value : Json) : Prop := ∃ members, value.get? name = some (.obj members)

theorem hasObject_sorted {value : Json} (h : value.Distinct) :
    HasObject name value.sorted ↔ HasObject name value := by
  rw [HasObject, HasObject, Json.get?_sorted h]
  constructor
  · rintro ⟨members, hsorted⟩
    obtain ⟨inner, hinner, hmembers⟩ := Option.map_eq_some_iff.mp hsorted
    cases inner with
    | obj written => exact ⟨written, hinner⟩
    | _ => simp only [Json.sorted, reduceCtorEq] at hmembers
  · rintro ⟨members, hmembers⟩
    rw [hmembers, Option.map_some, Json.sorted]
    exact ⟨_, rfl⟩

theorem sent?_object {value : Json} {members : List (String × Json)}
    (h : value.get? name = some (.obj members)) :
    sent? name table value = some ((table.filter fun entry => Listed members entry.1).map (·.2)) := by
  rw [sent?, h, ← select_eq]

theorem sent?_eq_none {value : Json} (h : ¬HasObject name value) : sent? name table value = none := by
  rw [sent?]
  split
  · next members hmembers => exact absurd ⟨members, hmembers⟩ h
  · rfl

/-- What is sent does not depend on the order of members and the values of leaves. -/
theorem Alike.sent?_eq {value other : Json} (h : Alike value other)
    (hobject : HasObject name value ↔ HasObject name other) :
    sent? name table value.sorted = sent? name table other.sorted := by
  obtain ⟨hvalue, hother⟩ := h.distinct
  by_cases hvalueObject : HasObject name value
  · obtain ⟨others, hothers⟩ := hobject.mp hvalueObject
    obtain ⟨members, hmembers⟩ := hvalueObject
    have hget := h.get? name
    rw [hmembers, hothers] at hget
    cases hget with
    | some hinner =>
        have hleads := hinner.leadsTo
        rw [Json.sorted, Json.sorted] at hleads
        have hlisted : ∀ path, Listed (Json.sortedInto [] members) path ↔
            Listed (Json.sortedInto [] others) path := by
          intro path
          simp only [Listed, leaf_iff, hleads]
        rw [sent?_object (by rw [Json.get?_sorted hvalue, hmembers, Option.map_some, Json.sorted]),
          sent?_object (by rw [Json.get?_sorted hother, hothers, Option.map_some, Json.sorted])]
        simp only [hlisted]
  · rw [sent?_eq_none (mt (hasObject_sorted hvalue).mp hvalueObject),
      sent?_eq_none (mt (hasObject_sorted hother).mp (mt hobject.mpr hvalueObject))]

/-! ## Objects whose list of fields is set -/

variable {α : Type} {type : MessageType α} {body : Bytes} {wrapper : RegionObject α}

/-- What becomes of an object whose list of fields is set from a body. -/
structure Meaning (type : MessageType α) (table : List (String × String)) (body : Bytes)
    (wrapper : RegionObject α) : Prop where
  /-- A list that the caller gives stays. -/
  given : type.fields wrapper.object ≠ [] → fill type table body wrapper = (.ok (), wrapper)
  /-- A body that has no value is refused, and the object stays as it is. -/
  refused : ∀ fault, type.fields wrapper.object = [] → Json.parse body = .error fault →
    fill type table body wrapper = (.error (.badRequest fault.message), wrapper)
  /-- A body without an object of the name changes nothing. -/
  unsent : ∀ value, Json.parse body = .ok value → ¬HasObject type.name value →
    fill type table body wrapper = (.ok (), wrapper)
  /-- Otherwise the list, and nothing else, is replaced by the ids of the entries that are listed, in the
  order of the table. -/
  replaced : ∀ value members, type.fields wrapper.object = [] → Json.parse body = .ok value →
    value.get? type.name = some (.obj members) →
    fill type table body wrapper = (.ok (), ⟨wrapper.region,
      type.setFields ((table.filter fun entry => Listed members entry.1).map (·.2)) wrapper.object⟩)
  /-- The entries that are listed are those that are named, unless names go on behind one that folds to
  nothing. -/
  named : ∀ value members, Json.parse body = .ok value → value.get? type.name = some (.obj members) →
    (∀ name inner, (name, inner) ∈ members → fold name = "" → IsLeaf inner) →
    ∀ path, Listed members path ↔ Named members path
  /-- Bodies that are alike as they are written, and both have an object of the name or both have none, do
  the same. -/
  alike : ∀ other written written', Json.parseWritten body = .ok written →
    Json.parseWritten other = .ok written' → Alike written written' →
    (HasObject type.name written ↔ HasObject type.name written') →
    fill type table other wrapper = fill type table body wrapper

/-- **What an update mask says.** For every type of messages, every table, every body and every object: what
`fill` does is told by the leaves of the object that the body sends. -/
theorem fill_meaning (type : MessageType α) (table : List (String × String)) (body : Bytes)
    (wrapper : RegionObject α) : Meaning type table body wrapper where
  given := fill_given
  refused _ := fill_refused
  unsent value hvalue hobject := by
    by_cases hempty : type.fields wrapper.object = []
    · rw [fill_parsed hempty hvalue, sent?_eq_none hobject]
      rfl
    · exact fill_given hempty
  replaced value members hempty hvalue hmembers := by
    rw [fill_parsed hempty hvalue, sent?_object hmembers]
    rfl
  named value members _ _ h path := listed_iff_named h
  alike other written written' hwritten hwritten' halike hobject := by
    by_cases hempty : type.fields wrapper.object = []
    · have hvalue : Json.parse body = .ok written.sorted := by rw [Json.parse_eq, hwritten]; rfl
      have hother : Json.parse other = .ok written'.sorted := by rw [Json.parse_eq, hwritten']; rfl
      rw [fill_parsed hempty hvalue, fill_parsed hempty hother, halike.sent?_eq hobject]
    · rw [fill_given hempty, fill_given hempty]

/-! ## Bodies with widgets -/

/-- The fields of widgets. -/
def widgetFields : List (String × String) :=
  [("key", "2"), ("key.name", "2.1"), ("key.organization", "2.2"), ("size", "3")]

/-- A body with a size, the name of a widget, and a list of fields. -/
def sizedWidget : Json :=
  .obj [("Widget", .obj [("Size", .int 5), ("key", .obj [("Name", .str "w")]), ("Fields", .arr [])])]

/-- What the body has under the name of widgets, sorted. -/
def sizedMembers : List (String × Json) :=
  [("Fields", .arr []), ("Size", .int 5), ("key", .obj [("Name", .str "w")])]

/-- The same body in another order, with other values at its leaves. -/
def reorderedWidget : Json :=
  .obj [("Widget", .obj [("Fields", .str ""), ("key", .obj [("Name", .int 1)]), ("Size", .arr [])])]

theorem alike_sizedWidget : Alike sizedWidget reorderedWidget := by
  have hkey : Alike (.obj [("Name", .str "w")]) (.obj [("Name", .int 1)]) :=
    .member List.not_mem_nil List.not_mem_nil (.leaf trivial trivial) (.leaf trivial trivial)
  have hlist : Alike (.obj [("Size", .int 5)]) (.obj [("Size", .arr [])]) :=
    .member List.not_mem_nil List.not_mem_nil (.leaf trivial trivial) (.leaf trivial trivial)
  have hordered : Alike
      (.obj [("Fields", .arr []), ("key", .obj [("Name", .str "w")]), ("Size", .int 5)])
      (.obj [("Fields", .str ""), ("key", .obj [("Name", .int 1)]), ("Size", .arr [])]) :=
    .member (by decide) (by decide) (.leaf trivial trivial) (.member (by decide) (by decide) hkey hlist)
  refine .member List.not_mem_nil List.not_mem_nil (hordered.reordered ?_) (.leaf trivial trivial)
  exact (List.Perm.swap _ _ _).trans (((List.Perm.swap _ _ _).cons _).trans (List.Perm.swap _ _ _))

theorem nested_widgets : Json.Nested Json.maxDepth sizedWidget ∧
    Json.Nested Json.maxDepth reorderedWidget := by
  constructor
  all_goals
    refine .obj ?_
    simp only [List.mem_singleton, forall_eq]
    refine .obj ?_
    simp only [List.mem_cons, List.not_mem_nil, or_false, forall_eq_or_imp, forall_eq]
  · exact ⟨.nat (by decide), .obj (by simpa using .str), .arr (List.forall_mem_nil _)⟩
  · exact ⟨.str, .obj (by simpa using .nat (by decide)), .arr (List.forall_mem_nil _)⟩

/-- The mask of a widget names its size and the name in its key, in whatever order they are written. -/
theorem fill_meaning_widget : ∀ body ∈ [sizedWidget.bytes, reorderedWidget.bytes],
    fill Widget.type widgetFields body ⟨"local", Widget.type.empty⟩ =
      (.ok (), ⟨"local", ⟨["2.1", "3"], ⟨"", ""⟩, 0⟩⟩) := by
  have hmeaning := fill_meaning Widget.type widgetFields sizedWidget.bytes ⟨"local", Widget.type.empty⟩
  have hparsed : Json.parse sizedWidget.bytes = .ok (.obj [("Widget", .obj sizedMembers)]) :=
    Json.parse_bytes nested_widgets.1
  have hlisted : ((widgetFields.filter fun entry => Listed sizedMembers entry.1).map (·.2)) =
      ["2.1", "3"] := by
    decide +kernel
  have hsized := hmeaning.replaced _ sizedMembers rfl hparsed rfl
  rw [hlisted] at hsized
  have hreordered := hmeaning.alike reorderedWidget.bytes _ _ (Json.parseWritten_bytes nested_widgets.1)
    (Json.parseWritten_bytes nested_widgets.2) alike_sizedWidget
    (iff_of_true ⟨_, rfl⟩ ⟨_, rfl⟩)
  simp only [List.mem_cons, List.not_mem_nil, or_false, forall_eq_or_imp, forall_eq]
  exact ⟨hsized, hreordered.trans hsized⟩

/-- A body with a size that stands below an underscore. -/
def blankWidget : Json := .obj [("Widget", .obj [("_", .obj [("size", .int 1)])])]

/-- A body with a leaf below a name that is empty. -/
def emptyNameWidget : Json := .obj [("Widget", .obj [("", .obj [("Fields", .int 1)])])]

theorem parse_blankWidgets : Json.parse blankWidget.bytes = .ok blankWidget ∧
    Json.parse emptyNameWidget.bytes = .ok emptyNameWidget := by
  have hnested : ∀ name inner, Json.Nested Json.maxDepth
      (.obj [("Widget", .obj [(name, .obj [(inner, .int 1)])])]) := by
    intro name inner
    refine .obj ?_
    simp only [List.mem_singleton, forall_eq]
    refine .obj ?_
    simp only [List.mem_singleton, forall_eq]
    refine .obj ?_
    simp only [List.mem_singleton, forall_eq]
    exact .nat (by decide)
  exact ⟨Json.parse_bytes (hnested "_" "size"), Json.parse_bytes (hnested "" "Fields")⟩

/-- Names that go on behind a blank one are filed one level up: a field is listed that is not sent, and the
leaf that is sent is not listed. -/
theorem blank_name_passed_over :
    (∃ members, Json.parse blankWidget.bytes = .ok (.obj [("Widget", .obj members)]) ∧
      ¬Named members "size" ∧
      fill Widget.type widgetFields blankWidget.bytes ⟨"local", Widget.type.empty⟩ =
        (.ok (), ⟨"local", ⟨["3"], ⟨"", ""⟩, 0⟩⟩)) ∧
    ∃ members, Json.parse emptyNameWidget.bytes = .ok (.obj [("Widget", .obj members)]) ∧
      Named members ".fields" ∧
      fill Widget.type [(".fields", "1")] emptyNameWidget.bytes ⟨"local", Widget.type.empty⟩ =
        (.ok (), ⟨"local", Widget.type.empty⟩) := by
  obtain ⟨hblank, hempty⟩ := parse_blankWidgets
  refine ⟨⟨_, hblank, ?_, ?_⟩, _, hempty, ⟨["", "Fields"], ?_, ?_, ?_⟩, ?_⟩
  · rintro ⟨names, hleaf, -, hpath⟩
    cases hleaf with
    | here hsent hleaf =>
        obtain ⟨rfl, rfl⟩ := Prod.mk.inj (List.mem_singleton.mp hsent)
        exact hleaf
    | inside hsent hrest =>
        obtain ⟨rfl, hinner⟩ := Prod.mk.inj (List.mem_singleton.mp hsent)
        cases hinner
        cases hrest with
        | here hsent hleaf =>
            obtain ⟨rfl, rfl⟩ := Prod.mk.inj (List.mem_singleton.mp hsent)
            exact absurd hpath (by decide +kernel)
        | inside hsent hrest => exact nomatch (Prod.mk.inj (List.mem_singleton.mp hsent)).2
  · have hsent : sent? "Widget" widgetFields blankWidget = some ["3"] := by decide +kernel
    exact (fill_parsed rfl hblank).trans (by rw [Widget.type, hsent]; rfl)
  · exact .inside List.mem_cons_self (.here List.mem_cons_self trivial)
  · decide +kernel
  · decide +kernel
  · have hsent : sent? "Widget" [(".fields", "1")] emptyNameWidget = some [] := by decide +kernel
    exact (fill_parsed rfl hempty).trans (by rw [Widget.type, hsent]; rfl)

end UpdateMask

end RegionGateway
