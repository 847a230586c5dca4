import RegionGateway.Proofs.Interface.FieldIds

/-!
# Accessors of fields

A path of declared names is written as an accessor by converting every segment to snake case, whatever is
declared; its id is found along the declared fields. Both are about the same fields where each segment is
written as declared, or its field comes back from Pascal case (`accessor_eq_iff`). A name with a word of one
letter or a number of its own does not come back (`numbered_owner_missed`).
-/

namespace RegionGateway.FieldPath

open Rust

variable {request : Request} {message : MessageDecl} {segments : List String} {fields : List FieldDecl}

/-- A segment names a field that has a lower-case name. -/
def NamesLower (segment : String) (field : FieldDecl) : Prop :=
  names segment field = true ∧ IsSnakeName field.name

/-- A segment is converted to the identifier of its field: it is the name as declared, or the name comes back
from Pascal case, or it looks like the identifier of a keyword. -/
def Returns (segment : String) (field : FieldDecl) : Prop :=
  segment = field.name ∨ KeepsWords field.name ∨ field.name ∈ ["self_", "super_", "crate_"]

theorem NamesLower.isWord {segment : String} {field : FieldDecl} (h : NamesLower segment field) :
    IsWord segment := by
  rcases names_iff.mp h.1 with rfl | rfl
  · exact h.2.isWord
  · exact h.2.isWord_pascalCase

theorem NamesLower.ident_eq_iff {segment : String} {field : FieldDecl} (h : NamesLower segment field) :
    ident segment = ident field.name ↔ Returns segment field := by
  by_cases hdeclared : segment = field.name
  · exact iff_of_true (congrArg ident hdeclared) (.inl hdeclared)
  · obtain rfl := (names_iff.mp h.1).resolve_left hdeclared
    rw [ident_pascalCase_iff h.2, Returns, or_iff_right hdeclared]

/-- The fields of the messages have lower-case names. -/
def SnakeNamed (messages : List MessageDecl) : Prop :=
  ∀ message ∈ messages, ∀ field ∈ message.fields, IsSnakeName field.name

theorem SnakeNamed.inner (h : SnakeNamed (message :: request.messages)) {field : FieldDecl}
    {inner : MessageDecl} (htype : request.fieldMessage? field = some inner) :
    SnakeNamed (inner :: request.messages) :=
  fun declared hdeclared => h declared (Request.mem_of_inner htype hdeclared)

/-- Each segment names the field next to it, which has a lower-case name. -/
theorem Resolves.forall₂ (h : Resolves request message segments fields)
    (hnamed : SnakeNamed (message :: request.messages)) :
    List.Forall₂ NamesLower segments fields := by
  induction h with
  | last hfound =>
      have hmem := List.mem_of_find?_eq_some hfound
      exact .cons ⟨List.find?_some hfound, hnamed _ List.mem_cons_self _ hmem⟩ .nil
  | into hfound htype _ ih =>
      have hmem := List.mem_of_find?_eq_some hfound
      exact .cons ⟨List.find?_some hfound, hnamed _ List.mem_cons_self _ hmem⟩ (ih (hnamed.inner htype))

theorem Resolves.ne_nil (h : Resolves request message segments fields) : segments ≠ [] ∧ fields ≠ [] := by
  cases h <;> simp

theorem no_dot_of_names (h : List.Forall₂ NamesLower segments fields) :
    (∀ name ∈ segments.map ident, '.' ∉ name.toList) ∧
      ∀ name ∈ fields.map fun field => ident field.name, '.' ∉ name.toList := by
  induction h with
  | nil => simp
  | cons hfirst _ ih =>
      simp only [List.map_cons, List.forall_mem_cons]
      exact ⟨⟨(isName_ident hfirst.isWord).no_dot, ih.1⟩, (isName_ident hfirst.2.isWord).no_dot, ih.2⟩

theorem map_ident_eq_iff (h : List.Forall₂ NamesLower segments fields) :
    segments.map ident = fields.map (fun field => ident field.name) ↔ List.Forall₂ Returns segments fields := by
  induction h with
  | nil => simp
  | cons hfirst _ ih =>
      rw [List.map_cons, List.map_cons, List.cons.injEq, List.forall₂_cons, hfirst.ident_eq_iff, ih]

/-- The fields that a path with an id means. -/
structure Means (request : Request) (message : MessageDecl) (path id : String) (fields : List FieldDecl) : Prop where
  /-- The path is resolved along them. -/
  resolved : Resolves request message (Text.split '.' path) fields
  /-- The id is made of their numbers. -/
  numbers : Text.join "." (fields.map numeral) = id
  /-- The accessor is made of their identifiers if every segment returns to its field, and only then. -/
  accessor : fieldPath path = Text.join "." (fields.map fun field => ident field.name) ↔
    List.Forall₂ Returns (Text.split '.' path) fields

/-- **Accessor and id are about the same fields, but for names that do not come back from Pascal case.** For
every request whose fields have lower-case names, every message and every path that has an id: the path is
resolved along declared fields, its id is made of their numbers, and its accessor is made of their identifiers
exactly if every segment returns to its field. -/
theorem accessor_eq_iff (hnamed : SnakeNamed (message :: request.messages)) {path id : String}
    (hid : id? request message path = some id) : ∃ fields, Means request message path id fields := by
  obtain ⟨fields, hresolves, hnumbers⟩ := id?_eq_some_iff.mp hid
  refine ⟨fields, hresolves, hnumbers, ?_⟩
  have hnames := hresolves.forall₂ hnamed
  obtain ⟨hsegments, hfields⟩ := hresolves.ne_nil
  obtain ⟨hno, hno'⟩ := no_dot_of_names hnames
  rw [← map_ident_eq_iff hnames]
  exact Text.join_inj (by simpa using hsegments) (by simpa using hfields) hno hno'

theorem snakeNamed_lease : SnakeNamed (lease :: leases.messages) := by
  unfold SnakeNamed
  decide +kernel

/-- The accessor of the owner in the key of a lease is about the field that its id is about. -/
theorem accessor_eq_iff_owner : SnakeNamed (lease :: leases.messages) ∧
    id? leases lease "LeaseKey.owner_org" = some "2.1" ∧
    (∃ fields, Means leases lease "LeaseKey.owner_org" "2.1" fields) ∧
    fieldPath "LeaseKey.owner_org" = "lease_key.owner_org" := by
  have hid : id? leases lease "LeaseKey.owner_org" = some "2.1" := by decide +kernel
  exact ⟨snakeNamed_lease, hid, accessor_eq_iff snakeNamed_lease hid, by decide +kernel⟩

/-- The number at the end of `org_1` is no word in Pascal case: the path `Org1` has the id of the field, and an
accessor that is about none. -/
theorem numbered_owner_missed : SnakeNamed (lease :: leases.messages) ∧ id? leases lease "Org1" = some "4" ∧
    Resolves leases lease (Text.split '.' "Org1") [⟨"org_1", 4, none⟩] ∧ fieldPath "Org1" = "org1" ∧
    Text.join "." (([⟨"org_1", 4, none⟩] : List FieldDecl).map fun field => ident field.name) = "org_1" := by
  have hsplit : Text.split '.' "Org1" = ["Org1"] := by decide +kernel
  refine ⟨snakeNamed_lease, by decide +kernel, ?_, by decide +kernel, by decide +kernel⟩
  rw [hsplit]
  exact .last (by decide +kernel)

end RegionGateway.FieldPath
