import RegionGateway.Gateway.UpdateMask
import RegionGateway.Text.Blank

/-!
# The list of updated fields

What becomes of the list of fields of an object: one that is not empty stays as it is, whatever the
body is (`apply_given`); an empty one is replaced by what the value of the body says (`apply_empty`).
This is the list that `fill` leaves in the object (`fill_eq_apply`). The ids on the new list are those of the
paths (`mem_select`) to which names lead from the object that is sent (`mem_present`).
-/

namespace RegionGateway.UpdateMask

variable {body : Bytes} {name : String} {table : List (String × String)}

/-- The ids of the fields sent under a name of a value; none if it has no object of that name. -/
def sent? (name : String) (table : List (String × String)) (value : Json) : Option (List String) :=
  match value.get? name with
  | some (.obj members) => some (select table (memberPaths "" members))
  | _ => none

theorem ofBody_eq (body : Bytes) (name : String) (table : List (String × String)) :
    ofBody body name table = sent? name table <$> decodeRequest Codec.any body := by
  unfold ofBody
  cases decodeRequest Codec.any body with
  | error error => rfl
  | ok value =>
      cases value with
      | obj members =>
          show (match Json.lookup name members with
            | some (.obj inner) => Except.ok (some (select table (memberPaths "" inner)))
            | _ => Except.ok none) = Except.ok (sent? name table (.obj members))
          rw [sent?, Json.get?]
          cases Json.lookup name members with
          | none => rfl
          | some inner => cases inner <;> rfl
      | _ => rfl

/-- The list of fields of an object after its request body has been looked at. -/
def apply (body : Bytes) (name : String) (table : List (String × String)) (fields : List String) :
    Except GatewayError (List String) := do
  return (← replacement? body name table fields).getD fields

/-- A list of fields that the caller gives stays. -/
theorem apply_given {fields : List String} (h : fields ≠ []) :
    apply body name table fields = .ok fields := by
  have hempty : fields.isEmpty = false := List.isEmpty_eq_false_iff.mpr h
  rw [apply, replacement?, hempty]
  rfl

/-- Without a list of fields, the body says what they are. -/
theorem apply_empty (body : Bytes) (name : String) (table : List (String × String)) :
    apply body name table [] =
      (fun value => (sent? name table value).getD []) <$> decodeRequest Codec.any body := by
  rw [apply, replacement?, List.isEmpty_nil, if_pos rfl, ofBody_eq]
  cases decodeRequest Codec.any body with
  | error error => rfl
  | ok value => rfl

/-- A body that has no value stops an update without a list of fields. -/
theorem apply_error {fault : Fault} (h : Json.parse body = .error fault) :
    apply body name table [] = .error (.badRequest fault.message) := by
  have hdecoded : Codec.any.decode body = .error fault := h
  rw [apply_empty, decodeRequest, hdecoded]
  rfl

theorem apply_ok {value : Json} (h : Json.parse body = .ok value) :
    apply body name table [] = .ok ((sent? name table value).getD []) := by
  have hdecoded : Codec.any.decode body = .ok value := h
  rw [apply_empty, decodeRequest, hdecoded]
  rfl

/-! ## Objects that are filled -/

section

variable {α : Type} {type : MessageType α} {wrapper : RegionObject α}

theorem fill_given (h : type.fields wrapper.object ≠ []) :
    fill type table body wrapper = (.ok (), wrapper) := by
  rw [fill, replacement?, List.isEmpty_eq_false_iff.mpr h]
  rfl

theorem fill_refused {fault : Fault} (hempty : type.fields wrapper.object = [])
    (h : Json.parse body = .error fault) :
    fill type table body wrapper = (.error (.badRequest fault.message), wrapper) := by
  have hdecoded : Codec.any.decode body = .error fault := h
  rw [fill, hempty, replacement?, List.isEmpty_nil, if_pos rfl, ofBody_eq, decodeRequest, hdecoded]
  rfl

theorem replacement?_parsed {value : Json} (h : Json.parse body = .ok value) :
    replacement? body name table [] = .ok (sent? name table value) := by
  have hdecoded : Codec.any.decode body = .ok value := h
  rw [replacement?, List.isEmpty_nil, if_pos rfl, ofBody_eq, decodeRequest, hdecoded]
  rfl

theorem fill_parsed {value : Json} (hempty : type.fields wrapper.object = [])
    (h : Json.parse body = .ok value) :
    fill type table body wrapper = (.ok (), (sent? type.name table value).elim wrapper
      fun fields => ⟨wrapper.region, type.setFields fields wrapper.object⟩) := by
  rw [fill, hempty, replacement?_parsed h]
  cases sent? type.name table value <;> rfl

/-- An object that keeps its list when it is set again is filled with the list that is told here. -/
theorem fill_eq_apply (hlaw : ∀ object, type.setFields (type.fields object) object = object)
    (table : List (String × String)) (body : Bytes) (wrapper : RegionObject α) :
    (do
      let (result, filled) := fill type table body wrapper
      result
      return filled) =
      (fun fields => ⟨wrapper.region, type.setFields fields wrapper.object⟩) <$>
        apply body type.name table (type.fields wrapper.object) := by
  rw [apply, fill]
  rcases replacement? body type.name table (type.fields wrapper.object) with error | fields | fields
  · rfl
  · show Except.ok wrapper = .ok ⟨wrapper.region, type.setFields (type.fields wrapper.object) wrapper.object⟩
    rw [hlaw]
  · rfl

end

/-! ## Names as they are compared -/

theorem fold_append (s t : String) : fold (s ++ t) = fold s ++ fold t := by
  simp [fold, String.ofList_append]

theorem fold_join (glue : String) (parts : List String) :
    fold (Text.join glue parts) = Text.join (fold glue) (parts.map fold) := by
  induction parts with
  | nil => rfl
  | cons part parts ih =>
      cases parts with
      | nil => rfl
      | cons next parts =>
          show fold (part ++ glue ++ Text.join glue (next :: parts)) = _
          rw [fold_append, fold_append, ih]
          rfl

theorem fold_dot : fold "." = "." := by decide +kernel

theorem fold_underscore : fold "_" = "" := by decide +kernel

/-! ## Leaves and their paths -/

theorem mem_select {present : List String} {id : String} :
    id ∈ select table present ↔ ∃ path, (path, id) ∈ table ∧ fold path ∈ present := by
  simp only [select, List.mem_map, List.mem_filter, List.contains_iff_mem]
  constructor
  · rintro ⟨⟨path, id⟩, ⟨hmem, hpresent⟩, rfl⟩
    exact ⟨path, hmem, hpresent⟩
  · rintro ⟨path, hmem, hpresent⟩
    exact ⟨(path, id), ⟨hmem, hpresent⟩, rfl⟩

/-- A value from which no name leads on: any but an object with members. -/
def IsLeaf : Json → Prop
  | .obj (_ :: _) => False
  | _ => True

/-- The path of a member of an object that has a path. -/
def below (path name : String) : String :=
  if path = "" then fold name else path ++ "." ++ fold name

/-- From a value that has a path, names lead to a leaf that has a path. The name `fields` leads nowhere
from the empty path. -/
inductive Reaches : String → Json → String → Prop
  | leaf {path value} (hleaf : IsLeaf value) : Reaches path value path
  | member {path name value members leaf} (hmem : (name, value) ∈ members)
    (hkept : ¬(path = "" ∧ fold name = "fields")) (hrest : Reaches (below path name) value leaf) :
    Reaches path (.obj members) leaf

theorem valuePaths_leaf {path : String} {value : Json} (hleaf : IsLeaf value) :
    valuePaths path value = [path] := by
  cases value with
  | obj members =>
      cases members with
      | nil => rw [valuePaths]
      | cons member members => exact hleaf.elim
  | _ => simp only [valuePaths]

theorem mem_valuePaths_leaf {path leaf : String} {value : Json} (hleaf : IsLeaf value) :
    leaf ∈ valuePaths path value ↔ Reaches path value leaf := by
  rw [valuePaths_leaf hleaf, List.mem_singleton]
  constructor
  · rintro rfl
    exact .leaf hleaf
  · rintro (hleaf' | @⟨_, _, _, members, _, hmem, -, -⟩)
    · rfl
    · cases members with
      | nil => exact absurd hmem List.not_mem_nil
      | cons member members => exact hleaf.elim

theorem reaches_obj {path leaf : String} {member : String × Json} {members : List (String × Json)} :
    Reaches path (.obj (member :: members)) leaf ↔ ∃ name value, (name, value) ∈ member :: members ∧
      ¬(path = "" ∧ fold name = "fields") ∧ Reaches (below path name) value leaf := by
  constructor
  · rintro (hleaf | ⟨hmem, hkept, hrest⟩)
    · exact hleaf.elim
    · exact ⟨_, _, hmem, hkept, hrest⟩
  · rintro ⟨name, value, hmem, hkept, hrest⟩
    exact .member hmem hkept hrest

mutual
/-- The paths that are listed for the members of an object are those to which their names lead. -/
theorem mem_memberPaths {path leaf : String} : ∀ members : List (String × Json),
    leaf ∈ memberPaths path members ↔ ∃ name value, (name, value) ∈ members ∧
      ¬(path = "" ∧ fold name = "fields") ∧ Reaches (below path name) value leaf
  | [] => by simp [memberPaths]
  | (name, value) :: rest => by
      have hhead : (leaf ∈ if path = "" ∧ fold name = "fields" then []
          else valuePaths (below path name) value) ↔
          ¬(path = "" ∧ fold name = "fields") ∧ Reaches (below path name) value leaf := by
        rw [← mem_valuePaths value]
        by_cases hkept : path = "" ∧ fold name = "fields"
        · simp [hkept]
        · simp only [hkept, if_false, not_false_eq_true, true_and]
      rw [memberPaths, List.mem_append, mem_memberPaths rest]
      refine (or_congr_left hhead).trans ?_
      simp only [List.mem_cons, Prod.mk.injEq]
      constructor
      · rintro (hfirst | ⟨other, inner, hmem, hother⟩)
        · exact ⟨name, value, .inl ⟨rfl, rfl⟩, hfirst⟩
        · exact ⟨other, inner, .inr hmem, hother⟩
      · rintro ⟨other, inner, ⟨rfl, rfl⟩ | hmem, hother⟩
        · exact .inl hother
        · exact .inr ⟨other, inner, hmem, hother⟩

theorem mem_valuePaths {path leaf : String} : ∀ value : Json,
    leaf ∈ valuePaths path value ↔ Reaches path value leaf
  | .obj (member :: members) => by
      rw [valuePaths, mem_memberPaths (member :: members), reaches_obj]
  | .obj [] | .null | .bool _ | .int _ | .float _ | .str _ | .arr _ => mem_valuePaths_leaf trivial
end

/-- Whether a path is that of a leaf among the members of an object. -/
def Present (members : List (String × Json)) (path : String) : Prop :=
  ∃ name value, (name, value) ∈ members ∧ fold name ≠ "fields" ∧ Reaches (fold name) value path

theorem mem_present {members : List (String × Json)} {path : String} :
    path ∈ memberPaths "" members ↔ Present members path := by
  simp only [mem_memberPaths, Present, below, if_true, true_and]

end RegionGateway.UpdateMask
