import RegionGateway.Proofs.Gateway.UpdateMask
import RegionGateway.Proofs.Text.Parts

/-!
# The paths of leaves

Names lead from an object to a leaf (`Leaf`), and the leaf is filed under a path made of the folded names
(`UpdateMask.mem_memberPaths_top`, `UpdateMask.filed`). Below a path that is not empty every name counts
(`filed_below`); at the top, names that fold to nothing are passed over, except for the last one
(`filed_top`).
-/

namespace RegionGateway

/-! ## Leaves of objects -/

/-- The names that lead to a leaf below the members of an object. -/
inductive Leaf : List (String × Json) → List String → Prop
  | here {members name value} (sent : (name, value) ∈ members) (leaf : UpdateMask.IsLeaf value) :
      Leaf members [name]
  | inside {members name inner names} (sent : (name, .obj inner) ∈ members) (rest : Leaf inner names) :
      Leaf members (name :: names)

theorem Leaf.ne_nil {names : List String} : ¬ Leaf [] names := by
  rintro (⟨hsent, -⟩ | ⟨hsent, -⟩)
  · exact absurd hsent List.not_mem_nil
  · exact absurd hsent List.not_mem_nil

theorem Leaf.names_ne_nil {members : List (String × Json)} {names : List String} (h : Leaf members names) :
    names ≠ [] := by
  cases h <;> exact List.cons_ne_nil _ _

namespace UpdateMask

/-- Names lead from a value to a leaf. -/
def LeadsTo : Json → List String → Prop
  | value, [] => IsLeaf value
  | value, name :: names => ∃ members inner, value = .obj members ∧ (name, inner) ∈ members ∧
      LeadsTo inner names

/-- The path under which a leaf is filed if names lead to it from a value that has a path. -/
def filed : String → List String → Option String
  | path, [] => some path
  | path, name :: names =>
    if path = "" ∧ fold name = "fields" then none else filed (below path name) names

theorem isLeaf_obj {members : List (String × Json)} : IsLeaf (.obj members) ↔ members = [] := by
  cases members with
  | nil => exact ⟨fun _ => rfl, fun _ => trivial⟩
  | cons member members => exact ⟨fun h => h.elim, fun h => nomatch h⟩

theorem leadsTo_obj {members : List (String × Json)} {name : String} {names : List String} :
    LeadsTo (.obj members) (name :: names) ↔ ∃ inner, (name, inner) ∈ members ∧ LeadsTo inner names := by
  constructor
  · rintro ⟨_, inner, ⟨⟩, hmem, hrest⟩
    exact ⟨inner, hmem, hrest⟩
  · rintro ⟨inner, hmem, hrest⟩
    exact ⟨members, inner, rfl, hmem, hrest⟩

theorem leaf_iff {members : List (String × Json)} {names : List String} :
    Leaf members names ↔ names ≠ [] ∧ LeadsTo (.obj members) names := by
  constructor
  · intro h
    refine ⟨h.names_ne_nil, ?_⟩
    induction h with
    | here hsent hleaf => exact leadsTo_obj.mpr ⟨_, hsent, hleaf⟩
    | inside hsent _ ih => exact leadsTo_obj.mpr ⟨_, hsent, ih⟩
  · rintro ⟨hne, h⟩
    induction names generalizing members with
    | nil => exact absurd rfl hne
    | cons name names ih =>
        obtain ⟨inner, hmem, hrest⟩ := leadsTo_obj.mp h
        cases names with
        | nil => exact .here hmem hrest
        | cons next names =>
            obtain ⟨inner, _, rfl, -, -⟩ := id hrest
            exact .inside hmem (ih (List.cons_ne_nil _ _) hrest)

theorem reaches_iff {path leaf : String} {value : Json} :
    Reaches path value leaf ↔ ∃ names, LeadsTo value names ∧ filed path names = some leaf := by
  constructor
  · intro h
    induction h with
    | leaf hleaf => exact ⟨[], hleaf, rfl⟩
    | @member _ name _ members _ hmem hkept _ ih =>
        obtain ⟨names, hnames, hfiled⟩ := ih
        refine ⟨name :: names, leadsTo_obj.mpr ⟨_, hmem, hnames⟩, ?_⟩
        rw [filed, if_neg hkept, hfiled]
  · rintro ⟨names, hnames, hfiled⟩
    induction names generalizing path value with
    | nil =>
        cases hfiled
        exact .leaf hnames
    | cons name names ih =>
        obtain ⟨members, inner, rfl, hmem, hrest⟩ := hnames
        rw [filed] at hfiled
        by_cases hkept : path = "" ∧ fold name = "fields"
        · rw [if_pos hkept] at hfiled
          cases hfiled
        · rw [if_neg hkept] at hfiled
          exact .member hmem hkept (ih hrest hfiled)

theorem mem_memberPaths_top {members : List (String × Json)} {path : String} :
    path ∈ memberPaths "" members ↔ ∃ names, Leaf members names ∧ filed "" names = some path := by
  cases members with
  | nil =>
      rw [memberPaths]
      exact ⟨fun h => absurd h List.not_mem_nil, fun ⟨_, hleaf, _⟩ => absurd hleaf Leaf.ne_nil⟩
  | cons member members =>
      rw [mem_memberPaths, ← reaches_obj, reaches_iff]
      refine exists_congr fun names => and_congr_left fun _ => ?_
      rw [leaf_iff]
      refine ⟨fun h => ⟨?_, h⟩, And.right⟩
      rintro rfl
      exact h.elim

/-! ## The names that count -/

/-- The names of which a path is made: those at the front that fold to nothing are passed over, except for
the last one. -/
def significant : List String → List String
  | name :: next :: names =>
    if fold name = "" then significant (next :: names) else name :: next :: names
  | names => names

theorem below_top (name : String) : below "" name = fold name := if_pos rfl

theorem append_dot_ne_empty (s t : String) : s ++ "." ++ t ≠ "" := by
  intro h
  have hlength := congrArg String.length h
  simp at hlength

/-- Below a path that is not empty, every name counts. -/
theorem filed_below {path : String} (hpath : path ≠ "") (names : List String) :
    filed path names = some (Text.join "." (path :: names.map fold)) := by
  induction names generalizing path with
  | nil => rfl
  | cons name names ih =>
      have hbelow : below path name = path ++ "." ++ fold name := if_neg hpath
      rw [filed, if_neg fun htop => hpath htop.1, hbelow, ih (append_dot_ne_empty path (fold name)),
        List.map_cons, ← Text.join_cons_join]

/-- The path of a leaf is made of the names that count; the first of them is not `fields`. -/
theorem filed_top {names : List String} (hnames : names ≠ []) {path : String} :
    filed "" names = some path ↔ fold ((significant names).headD "") ≠ "fields" ∧
      path = fold (Text.join "." (significant names)) := by
  induction names with
  | nil => exact absurd rfl hnames
  | cons name names ih =>
      rw [filed, below_top]
      simp only [true_and]
      cases names with
      | nil =>
          have hlast : significant [name] = [name] := rfl
          rw [hlast, List.headD_cons]
          by_cases hfields : fold name = "fields"
          · simp [hfields]
          · simp only [hfields, if_false, filed, Option.some.injEq, ne_eq, not_false_eq_true, true_and]
            exact eq_comm
      | cons next names =>
          rw [significant]
          by_cases hblank : fold name = ""
          · have hfields : ("" : String) ≠ "fields" := by decide
            rw [hblank, if_neg hfields, if_pos rfl]
            exact ih (List.cons_ne_nil _ _)
          · rw [if_neg hblank, List.headD_cons, fold_join, fold_dot, List.map_cons]
            by_cases hfields : fold name = "fields"
            · simp [hfields]
            · rw [if_neg hfields, filed_below hblank]
              simp only [Option.some.injEq, ne_eq, hfields, not_false_eq_true, true_and]
              exact eq_comm

/-- The first of the names that lead to a leaf is not taken for the list of updated fields, and does not
consist of underscores only unless it is the last one too. -/
def Addressed : List String → Prop
  | [] => False
  | name :: names => fold name ≠ "fields" ∧ (fold name = "" → names = [])

theorem significant_eq {name : String} {names : List String} (h : fold name = "" → names = []) :
    significant (name :: names) = name :: names := by
  cases names with
  | nil => rfl
  | cons next names => rw [significant, if_neg fun hblank => List.cons_ne_nil _ _ (h hblank)]

/-- A leaf with an address is filed under its names. -/
theorem filed_addressed {names : List String} (h : Addressed names) :
    filed "" names = some (fold (Text.join "." names)) := by
  cases names with
  | nil => exact h.elim
  | cons name names =>
      rw [filed_top (List.cons_ne_nil _ _), significant_eq h.2]
      exact ⟨h.1, rfl⟩

end UpdateMask

end RegionGateway
