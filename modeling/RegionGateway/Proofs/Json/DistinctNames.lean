import RegionGateway.Proofs.Json.TypedRead
import RegionGateway.Proofs.Json.WrittenOrder

/-!
# Names that stand once

Where the members of an object have different names, sorting them only reorders them
(`sorted_obj_perm`), and a name finds the same member in any order (`lookup_perm`). So a member of the
value that is read from a text is found as it is in the value that is written there (`get?_sorted`).
-/

namespace RegionGateway.Json

/-- The names of the members of an object differ from one another. -/
def Distinct (value : Json) : Prop := ∀ members, value = .obj members → (members.map Prod.fst).Nodup

theorem lookup_eq_some {members : List (String × Json)} (h : (members.map Prod.fst).Nodup) {name : String}
    {value : Json} : lookup name members = some value ↔ (name, value) ∈ members := by
  refine ⟨mem_of_lookup, fun hmem => ?_⟩
  induction members with
  | nil => exact absurd hmem List.not_mem_nil
  | cons member members ih =>
      obtain ⟨other, first⟩ := member
      obtain ⟨hfresh, hrest⟩ := List.nodup_cons.mp h
      rw [lookup]
      rcases List.mem_cons.mp hmem with hsame | hmem
      · cases hsame
        rw [if_pos rfl]
      · have hmember : name ∈ members.map Prod.fst := List.mem_map_of_mem hmem
        have hne : name ≠ other := fun heq => hfresh (heq ▸ hmember)
        rw [if_neg hne]
        exact ih hrest hmem

theorem lookup_perm {members permuted : List (String × Json)} (hperm : members.Perm permuted)
    (h : (members.map Prod.fst).Nodup) (name : String) : lookup name members = lookup name permuted := by
  have hpermuted : (permuted.map Prod.fst).Nodup := (hperm.map Prod.fst).nodup_iff.mp h
  refine Option.ext fun value => ?_
  rw [lookup_eq_some h, lookup_eq_some hpermuted, hperm.mem_iff]

theorem insertMember_perm {name : String} (value : Json) {members : List (String × Json)}
    (h : name ∉ members.map Prod.fst) : (insertMember name value members).Perm ((name, value) :: members) := by
  induction members with
  | nil => exact .refl _
  | cons member members ih =>
      obtain ⟨other, old⟩ := member
      rw [List.map_cons, List.mem_cons, not_or] at h
      rw [insertMember, if_neg h.1]
      split
      · exact .refl _
      · exact ((ih h.2).cons _).trans (.swap _ _ _)

theorem sortedInto_perm {members more : List (String × Json)}
    (h : ((members ++ more).map Prod.fst).Nodup) :
    (sortedInto members more).Perm (members ++ more.map (Prod.map id sorted)) := by
  induction more generalizing members with
  | nil => rw [sortedInto, List.map_nil, List.append_nil]
  | cons member more ih =>
      obtain ⟨name, value⟩ := member
      have hnames : (((name, sorted value) :: members ++ more).map Prod.fst).Nodup := by
        have hperm : (members ++ (name, value) :: more).Perm ((name, value) :: (members ++ more)) :=
          List.perm_middle
        exact (hperm.map Prod.fst).nodup_iff.mp h
      have hfresh : name ∉ members.map Prod.fst := by
        simp only [List.cons_append, List.map_cons, List.map_append, List.nodup_cons, List.mem_append,
          not_or] at hnames
        exact hnames.1.1
      have hinsert := insertMember_perm (sorted value) hfresh
      have hnext : ((insertMember name (sorted value) members ++ more).map Prod.fst).Nodup :=
        (((hinsert.append_right more).map Prod.fst).nodup_iff).mpr hnames
      rw [sortedInto]
      exact (ih hnext).trans ((hinsert.append_right _).trans List.perm_middle.symm)

theorem lookup_map_sorted (name : String) (members : List (String × Json)) :
    lookup name (members.map (Prod.map id sorted)) = (lookup name members).map sorted := by
  induction members with
  | nil => rfl
  | cons member members ih =>
      obtain ⟨other, value⟩ := member
      simp only [List.map_cons, Prod.map, lookup, id]
      split
      · rfl
      · exact ih

theorem get?_eq_some {value inner : Json} (h : value.Distinct) {name : String} :
    value.get? name = some inner ↔ ∃ members, value = .obj members ∧ (name, inner) ∈ members := by
  cases value with
  | obj members =>
      rw [get?, lookup_eq_some (h members rfl)]
      simp only [obj.injEq, exists_eq_left']
  | _ => simp only [get?, reduceCtorEq, false_and, exists_const]

theorem sorted_obj_perm {members : List (String × Json)} (h : (members.map Prod.fst).Nodup) :
    (sortedInto [] members).Perm (members.map (Prod.map id sorted)) := sortedInto_perm h

theorem Distinct.sorted {value : Json} (h : value.Distinct) : value.sorted.Distinct := by
  intro members hmembers
  cases value with
  | obj written =>
      rw [Json.sorted] at hmembers
      cases hmembers
      rw [((sorted_obj_perm (h written rfl)).map Prod.fst).nodup_iff, List.map_map]
      exact h written rfl
  | _ => rw [Json.sorted] at hmembers; cases hmembers

/-- A member whose name stands once is found in the sorted value as it is in the written one. -/
theorem get?_sorted {value : Json} (h : value.Distinct) (name : String) :
    value.sorted.get? name = (value.get? name).map sorted := by
  cases value with
  | obj members =>
      have hsorted : ((sortedInto [] members).map Prod.fst).Nodup := h.sorted _ (by rw [sorted])
      rw [sorted, get?, get?, lookup_perm (sorted_obj_perm (h members rfl)) hsorted, lookup_map_sorted]
  | _ => rw [sorted]; rfl

end RegionGateway.Json
