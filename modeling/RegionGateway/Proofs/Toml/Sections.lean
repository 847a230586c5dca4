import RegionGateway.Proofs.Toml.Lines

/-!
# Reading the settings of a section

A header opens a table at the end of the one around it, and settings are added at its end. What stands
around the table does not matter: a path of headers opens its table inside of other members (`Opens`), and
what is done with the table is done there. So a header with settings under different names leads to a
table with these settings (`reads_section`).
-/

namespace RegionGateway.Toml

namespace Node

/-- A node is assigned behind the members that do not have its key. -/
theorem assign_append {key : String} {before : Members} (h : before.lookup key = none) (node : Node)
    (members : Members) : assign key node (before ++ members) = before ++ assign key node members := by
  induction before with
  | nil => rfl
  | cons member before ih =>
      obtain ⟨k, n⟩ := member
      have hk : k ≠ key := by
        rintro rfl
        simp at h
      have hlater : before.lookup key = none := by
        rwa [List.lookup_cons, beq_false_of_ne hk.symm] at h
      rw [List.cons_append, assign, if_neg hk, ih hlater, List.cons_append]

theorem assign_of_lookup {key : String} {members : Members} (h : members.lookup key = none) (node : Node) :
    assign key node members = members ++ [(key, node)] := by
  have hassign := assign_append h node []
  rwa [List.append_nil] at hassign

theorem finishMembers_append (members members' : Members) :
    finishMembers (members ++ members') = finishMembers members ++ finishMembers members' := by
  induction members with
  | nil => rfl
  | cons member members ih => rw [List.cons_append, finishMembers, ih, finishMembers, List.cons_append]

theorem within_append (dotted : Bool) (change : Standing → Members → Option Members)
    (path path' : List String) (standing : Standing) (members : Members) :
    within dotted change (path ++ path') standing members =
      within dotted (within dotted change path') path standing members := by
  induction path generalizing standing members with
  | nil => rfl
  | cons key path ih => simp only [List.cons_append, within.eq_2, ih]

/-- A path of keys leads to a table inside of other members. -/
def Opens (path : List String) (around : Members → Members) : Prop :=
  ∀ ⦃change inner inner'⦄ (standing : Standing), (∀ standing, change standing inner = some inner') →
    within false change path standing (around inner) = some (around inner')

theorem opens_nil : Opens [] fun members => members := fun _ _ _ standing h => h standing

theorem opens_key (key : String) (before : Members) (h : before.lookup key = none) :
    Opens [key] fun inner => before ++ [(key, .table .defined inner)] := by
  intro change inner inner' standing hchange
  have hlookup : (before ++ [(key, Node.table .defined inner)]).lookup key = some (.table .defined inner) := by
    rw [List.lookup_append, h, Option.none_or, List.lookup_cons_self]
  have hassign : assign key (.table .defined inner') (before ++ [(key, .table .defined inner)]) =
      before ++ [(key, .table .defined inner')] := by
    rw [assign_append h, assign, if_pos rfl]
  unfold within
  rw [hlookup]
  show (change .defined inner).bind _ = _
  rw [hchange]
  exact congrArg some hassign

theorem Opens.append {path path' : List String} {around around' : Members → Members}
    (h : Opens path around) (h' : Opens path' around') :
    Opens (path ++ path') fun inner => around (around' inner) := by
  intro change inner inner' standing hchange
  rw [within_append]
  exact h standing fun standing => h' standing hchange

section

variable {path : List String} {around : Members → Members} (h : Opens path around)
include h

theorem beginTable_of_opens {key : String} {inner : Members} (hnew : inner.lookup key = none) :
    beginTable path key (around inner) = some (around (inner ++ [(key, .table .defined [])])) := by
  refine h .defined fun _ => ?_
  rw [hnew]
  exact congrArg some (assign_of_lookup hnew _)

theorem addBelow_of_opens {key : String} {inner : Members} (hnew : inner.lookup key = none) (v : Toml) :
    addBelow path [] key v (around inner) = some (around (inner ++ [(key, .value v)])) := by
  refine h .defined fun _ => ?_
  show addValue key v inner = _
  rw [addValue, hnew]
  exact congrArg some (assign_of_lookup hnew _)

end

end Node

/-! ## Settings -/

/-- A setting of a document: its name, what is written for it, and its value. -/
structure Setting where
  name : String
  text : List Char
  value : Toml
  bare : IsBare name
  shows : Shows text value

namespace Setting

/-- The line of a setting. -/
def line (setting : Setting) : List Char :=
  setting.name.toList ++ ' ' :: '=' :: ' ' :: (setting.text ++ ['\n'])

/-- The members that settings become. -/
def nodes (settings : List Setting) : Node.Members :=
  settings.map fun setting => (setting.name, .value setting.value)

/-- The members that settings are read as. -/
def members (settings : List Setting) : List (String × Toml) :=
  settings.map fun setting => (setting.name, setting.value)

theorem finishMembers_nodes (settings : List Setting) :
    Node.finishMembers (nodes settings) = members settings := by
  induction settings with
  | nil => rfl
  | cons setting settings ih => exact congrArg ((setting.name, setting.value) :: ·) ih

end Setting

open Node (Opens opens_key beginTable_of_opens addBelow_of_opens)

variable {path : List String} {around : Node.Members → Node.Members} {settings : List Setting}

/-- Settings under different new names are added at the end of a table. -/
theorem reads_settings (h : Opens path around) (inner : Node.Members)
    (hnew : ∀ setting ∈ settings, inner.lookup setting.name = none)
    (hnodup : (settings.map (·.name)).Nodup) :
    Reads (settings.flatMap Setting.line) ⟨path, around inner⟩
      ⟨path, around (inner ++ Setting.nodes settings)⟩ := by
  induction settings generalizing inner with
  | nil =>
      rw [Setting.nodes, List.map_nil, List.append_nil]
      exact .nil _
  | cons setting settings ih =>
      obtain ⟨hfirst, hlater⟩ := List.forall_mem_cons.mp hnew
      obtain ⟨hother, hnodup⟩ := List.nodup_cons.mp hnodup
      have hlater' : ∀ later ∈ settings,
          (inner ++ [(setting.name, Node.value setting.value)]).lookup later.name = none := by
        intro later hmem
        have hne : later.name ≠ setting.name := fun hsame => hother (List.mem_map.mpr ⟨later, hmem, hsame⟩)
        rw [List.lookup_append, hlater later hmem, Option.none_or, List.lookup_cons, beq_false_of_ne hne]
        rfl
      have hrest := ih _ hlater' hnodup
      rw [List.append_assoc] at hrest
      exact (reads_setting setting.bare setting.shows (addBelow_of_opens h hfirst _)).append hrest

/-- A header with settings leads to a table of these settings behind what is there. -/
theorem reads_section (h : Opens path around) (hpath : ∀ name ∈ path, IsBare name)
    (hdeep : path.length < maxDepth) (header : List String) (last : String) (inner : Node.Members)
    (hlast : IsBare last) (hnew : inner.lookup last = none) (hnodup : (settings.map (·.name)).Nodup) :
    Reads ('[' :: (dotted path last ++ [']', '\n']) ++ settings.flatMap Setting.line)
      ⟨header, around inner⟩
      ⟨path ++ [last], around (inner ++ [(last, .table .defined (Setting.nodes settings))])⟩ := by
  have hheader : Reads ('[' :: (dotted path last ++ [']', '\n'])) ⟨header, around inner⟩
      ⟨path ++ [last], around (inner ++ [(last, .table .defined [])])⟩ :=
    reads_header hpath hlast hdeep (beginTable_of_opens h hnew)
  have hsettings := reads_settings (h.append (opens_key last inner hnew)) [] (fun _ _ => rfl) hnodup
  exact hheader.append hsettings

end RegionGateway.Toml
