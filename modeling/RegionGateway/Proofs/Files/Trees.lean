import Mathlib.Data.List.Infix
import RegionGateway.Files.Tree
import RegionGateway.Proofs.Files.Paths
import RegionGateway.Proofs.Operations

/-!
# What operations do to a tree

A path names a place, whatever stands on the way (`placeOf`), and leads there if nothing but directories
stands on the way. Walks that led somewhere still do while directories stay (`Kept.walk`). Something is
created at the place that its path names (`placeOf_of_site`), and its path leads there
(`locate_of_site`). Making a directory or updating a file changes this place or nothing
(`makeDirectory_eq`, `update_cases`).
-/

namespace RegionGateway

namespace FileTree

/-! ## Places -/

/-- The place that a path names, whatever stands on the way. -/
def placeOf (tree : FileTree) (path : String) : Place :=
  (Path.parts path).foldl move (tree.start path)

/-- The places that a path leads through, the last one included. -/
def wayTo (tree : FileTree) (path : String) : List Place :=
  (Path.parts path).inits.map fun parts => parts.foldl move (tree.start path)

theorem move_of_not_leads {part : String} (h : Path.leads part = false) (place : Place) :
    move place part = place := by
  have hdot : part = "" ∨ part = "." := by
    by_contra hother
    rw [not_or] at hother
    exact Bool.eq_false_iff.mp h (Path.leads_iff.mpr hother)
  rw [move, if_pos hdot]

/-- Only some parts lead anywhere. -/
theorem foldl_move_filter (parts : List String) (place : Place) :
    (parts.filter Path.leads).foldl move place = parts.foldl move place := by
  induction parts generalizing place with
  | nil => rfl
  | cons part parts ih =>
      cases hleads : Path.leads part with
      | true => rw [List.filter_cons_of_pos hleads, List.foldl_cons, List.foldl_cons, ih]
      | false =>
          rw [List.filter_cons_of_neg (Bool.eq_false_iff.mp hleads), List.foldl_cons,
            move_of_not_leads hleads, ih]

theorem move_name {name : String} (hleads : Path.leads name = true) (hdots : name ≠ "..")
    (place : Place) : move place name = place ++ [name] := by
  obtain ⟨hempty, hdot⟩ := Path.leads_iff.mp hleads
  rw [move, if_neg (by simp [hempty, hdot]), if_neg hdots]

theorem start_below (tree : FileTree) {directory name : String} (h : Path.IsName name) :
    tree.start (Path.below directory name) = tree.start directory := by
  rw [start, start, Path.isAbsolute_below h]

theorem placeOf_below (tree : FileTree) {directory name : String} (h : Path.IsName name) :
    tree.placeOf (Path.below directory name) = tree.placeOf directory ++ [name] := by
  rw [placeOf, Path.parts_below h, List.foldl_append, start_below tree h, placeOf]
  exact move_name h.leads h.ne_dots _

theorem start_ofParts (tree : FileTree) (path : String) {parts : List String}
    (h : ∀ part ∈ parts, Path.leads part = true ∧ '/' ∉ part.toList) :
    tree.start (Path.ofParts path parts) = tree.start path := by
  rw [start, start, Path.isAbsolute_ofParts h]

/-- A path made of the first parts of another names a place on its way. -/
theorem placeOf_ofParts_mem (tree : FileTree) {path : String} {parts : List String}
    (h : parts <+: Path.parts path) : tree.placeOf (Path.ofParts path parts) ∈ tree.wayTo path := by
  have hparts : ∀ part ∈ parts, Path.leads part = true ∧ '/' ∉ part.toList := fun part hpart =>
    Path.mem_parts (h.subset hpart)
  rw [placeOf, Path.parts_ofParts hparts, start_ofParts tree path hparts]
  exact List.mem_map_of_mem ((List.mem_inits _ _).mpr h)

theorem placeOf_mem_wayTo (tree : FileTree) (path : String) : tree.placeOf path ∈ tree.wayTo path :=
  List.mem_map_of_mem ((List.mem_inits _ _).mpr (List.prefix_refl _))

theorem placeOf_above_mem (tree : FileTree) {path directory : String}
    (h : directory ∈ Path.above path) : tree.placeOf directory ∈ tree.wayTo path := by
  simp only [Path.above, List.mem_reverse, List.mem_map] at h
  obtain ⟨count, -, rfl⟩ := h
  exact tree.placeOf_ofParts_mem (List.take_prefix _ _)

/-- The directory of a path below a directory, as its parts give it, has the way of that directory. -/
theorem wayTo_ofParts (tree : FileTree) (directory path : String)
    (h : Path.isAbsolute path = Path.isAbsolute directory) :
    tree.wayTo (Path.ofParts path (Path.parts directory)) = tree.wayTo directory := by
  have hparts : ∀ part ∈ Path.parts directory, Path.leads part = true ∧ '/' ∉ part.toList :=
    fun _ hpart => Path.mem_parts hpart
  rw [wayTo, wayTo, Path.parts_ofParts hparts, start_ofParts tree path hparts, start, start, h]

/-! ## Walking -/

theorem walk_eq_ok {tree : FileTree} {place target : Place} {parts : List String}
    (h : tree.walk place parts = .ok target) : target = parts.foldl move place := by
  induction parts generalizing place with
  | nil => exact (Except.ok.inj h).symm
  | cons part parts ih =>
      unfold walk at h
      split at h
      · split at h
        · cases h
        · exact ih h
      · cases h
      · cases h

theorem walk_append {tree : FileTree} {place target : Place} {front back : List String} :
    tree.walk place (front ++ back) = .ok target ↔
      ∃ between, tree.walk place front = .ok between ∧ tree.walk between back = .ok target := by
  induction front generalizing place with
  | nil => simp [walk]
  | cons part front ih =>
      simp only [List.cons_append, walk]
      split
      · split
        · simp
        · exact ih
      · simp
      · simp

/-- Nothing that was a directory is something else. -/
structure Kept (before after : FileTree) : Prop where
  workingDirectory : after.workingDirectory = before.workingDirectory
  directories : ∀ {place}, before.entryAt place = some .directory → after.entryAt place = some .directory

/-- Where one could go one still can. -/
theorem Kept.walk {before after : FileTree} (h : Kept before after) {place target : Place}
    {parts : List String} (hwalk : before.walk place parts = .ok target) :
    after.walk place parts = .ok target := by
  induction parts generalizing place with
  | nil => exact hwalk
  | cons part parts ih =>
      unfold FileTree.walk at hwalk ⊢
      split at hwalk
      · next hdirectory =>
          rw [h.directories hdirectory]
          dsimp only
          split at hwalk
          · cases hwalk
          · next hshort => rw [if_neg hshort]; exact ih hwalk
      · cases hwalk
      · cases hwalk

theorem Kept.start {before after : FileTree} (h : Kept before after) (path : String) :
    after.start path = before.start path := by
  rw [FileTree.start, FileTree.start, h.workingDirectory]

theorem Kept.placeOf {before after : FileTree} (h : Kept before after) (path : String) :
    after.placeOf path = before.placeOf path := by
  rw [FileTree.placeOf, FileTree.placeOf, h.start]

theorem Kept.wayTo {before after : FileTree} (h : Kept before after) (path : String) :
    after.wayTo path = before.wayTo path := by
  rw [FileTree.wayTo, FileTree.wayTo, h.start]

theorem Kept.locate {before after : FileTree} (h : Kept before after) {path : String} {place : Place}
    (hlocate : before.locate path = .ok place) : after.locate path = .ok place := by
  unfold FileTree.locate at hlocate ⊢
  cases hcheck : checkPath path with
  | error error => rw [hcheck] at hlocate; cases hlocate
  | ok _ =>
      rw [hcheck] at hlocate
      show after.walk (after.start path) (Text.split '/' path) = .ok place
      rw [h.start]
      exact h.walk hlocate

/-! ## Sites -/

theorem site_eq_ok {tree : FileTree} {path : String} {place : Place} {name? : Option String}
    (h : tree.site path = .ok (place, name?)) : checkPath path = .ok () ∧
      tree.walk (tree.start path) (Path.segments path).dropLast = .ok place ∧
      tree.entryAt place = some .directory ∧ (Path.segments path).getLast?.any isTooLong = false ∧
      name? = (Path.segments path).getLast?.filter fun name => name != "." && name != ".." := by
  unfold site at h
  cases hcheck : checkPath path with
  | error error => rw [hcheck] at h; cases h
  | ok _ =>
      cases hwalk : tree.walk (tree.start path) ((Path.segments path).dropLast ++ [""]) with
      | error error => simp [hcheck, hwalk, bind, Except.bind] at h
      | ok target =>
          obtain ⟨between, hfront, hlast⟩ := walk_append.mp hwalk
          -- the empty name after the last slash leads nowhere, but only in a directory
          have hthere : tree.entryAt between = some .directory ∧ between = target := by
            unfold walk at hlast
            split at hlast
            · next hdirectory => exact ⟨hdirectory, by simpa [isTooLong, move, walk] using hlast⟩
            · cases hlast
            · cases hlast
          obtain ⟨hdirectory, rfl⟩ := hthere
          cases hlong : (Path.segments path).getLast?.any isTooLong with
          | true => simp [hcheck, hwalk, hlong, bind, Except.bind] at h
          | false =>
              simp only [hcheck, hwalk, hlong, bind, Except.bind, pure, Except.pure] at h
              obtain ⟨rfl, rfl⟩ := Prod.mk.inj (Except.ok.inj h)
              exact ⟨rfl, hfront, hdirectory, rfl, rfl⟩

/-- What something is created under is the last of the path's names. -/
theorem name_of_site {tree : FileTree} {path name : String} {place : Place}
    (h : tree.site path = .ok (place, some name)) :
    Path.segments path = (Path.segments path).dropLast ++ [name] ∧ Path.leads name = true ∧
      name ≠ ".." := by
  obtain ⟨-, -, -, -, hname⟩ := site_eq_ok h
  obtain ⟨hlast, hdots⟩ := Option.filter_eq_some_iff.mp hname.symm
  obtain ⟨hdot, hdots⟩ : name ≠ "." ∧ name ≠ ".." := by simpa using hdots
  have hempty : name ≠ "" := by simpa using Text.not_of_getLast?_dropEndWhile hlast
  exact ⟨(List.dropLast_append_getLast? name hlast).symm, Path.leads_iff.mpr ⟨hempty, hdot⟩, hdots⟩

/-- Something is created at the place that its path names. -/
theorem placeOf_of_site {tree : FileTree} {path name : String} {place : Place}
    (h : tree.site path = .ok (place, some name)) : place ++ [name] = tree.placeOf path := by
  obtain ⟨hsegments, hleads, hdots⟩ := name_of_site h
  obtain ⟨-, hwalk, -⟩ := site_eq_ok h
  rw [placeOf, ← Path.filter_segments, foldl_move_filter, hsegments, List.foldl_append,
    ← walk_eq_ok hwalk]
  exact (move_name hleads hdots place).symm

/-- The path that something is created at leads there. -/
theorem locate_of_site {tree : FileTree} {path name : String} {place : Place}
    (hsplit : Path.segments path = Text.split '/' path)
    (h : tree.site path = .ok (place, some name)) : tree.locate path = .ok (place ++ [name]) := by
  obtain ⟨hsegments, hleads, hdots⟩ := name_of_site h
  obtain ⟨hcheck, hwalk, hdirectory, hshort, -⟩ := site_eq_ok h
  have hshort : isTooLong name = false := by
    rw [hsegments, List.getLast?_concat] at hshort
    exact hshort
  unfold locate
  rw [hcheck, ← hsplit, hsegments]
  show tree.walk (tree.start path) ((Path.segments path).dropLast ++ [name]) = _
  refine walk_append.mpr ⟨place, hwalk, ?_⟩
  rw [walk, hdirectory]
  dsimp only
  rw [if_neg (by simp [hshort]), walk, move_name hleads hdots]

/-! ## Single operations -/

theorem lookup_filter_ne {place other : Place} (h : other ≠ place) (entries : List (Place × Entry)) :
    (entries.filter fun e => e.1 != place).lookup other = entries.lookup other := by
  induction entries with
  | nil => rfl
  | cons entry entries ih =>
      by_cases hsame : entry.1 = place
      · rw [List.filter_cons_of_neg (by simp [hsame]), List.lookup_cons,
          beq_eq_false_iff_ne.mpr (hsame ▸ h), ih]
      · rw [List.filter_cons_of_pos (by simp [hsame]), List.lookup_cons, List.lookup_cons, ih]

theorem entryAt_put (tree : FileTree) {place : Place} (h : place ≠ []) (entry : Entry) (other : Place) :
    (tree.put place entry).entryAt other = if other = place then some entry else tree.entryAt other := by
  by_cases hsame : other = place
  · simp [entryAt, put, hsame, h]
  · simp only [entryAt, put, if_neg hsame, List.lookup_cons, beq_eq_false_iff_ne.mpr hsame,
      lookup_filter_ne hsame]

/-- What is done at the site of a path fails as the site does, or goes on there. -/
theorem bind_site (path : String) (next : FileTree → Place × Option String → Attempt FileTree IoError Unit)
    (tree : FileTree) :
    ((get : Attempt FileTree IoError FileTree) >>= fun tree => Attempt.ofExcept (tree.site path) >>= next tree) tree =
      match tree.site path with
      | .error error => (.error error, tree)
      | .ok site => next tree site tree := by
  have hget : (get : Attempt FileTree IoError FileTree) tree = (.ok tree, tree) := rfl
  rw [Attempt.bind_ok _ hget]
  cases tree.site path with
  | error error => exact Attempt.bind_error _ rfl
  | ok site => exact Attempt.bind_ok _ rfl

theorem makeDirectory_eq (path : String) (tree : FileTree) : makeDirectory path tree =
    match tree.site path with
    | .error error => (.error error, tree)
    | .ok (_, none) => (.error .alreadyExists, tree)
    | .ok (place, some name) =>
      if (tree.entryAt (place ++ [name])).isSome then (.error .alreadyExists, tree)
      else (.ok (), tree.put (place ++ [name]) .directory) := by
  refine (bind_site path _ tree).trans ?_
  cases tree.site path with
  | error error => rfl
  | ok site =>
      obtain ⟨place, _ | name⟩ := site
      · rfl
      · dsimp only
        split <;> rfl

theorem update_eq (path : String) (content : Option Bytes → Bytes) (tree : FileTree) :
    update path content tree =
      match tree.site path with
      | .error error => (.error error, tree)
      | .ok (_, none) => (.error .isDirectory, tree)
      | .ok (place, some name) =>
        if Path.endsInSlash path then (.error .isDirectory, tree)
        else
          match tree.entryAt (place ++ [name]) with
          | some .directory => (.error .isDirectory, tree)
          | some (.file old) => (.ok (), tree.put (place ++ [name]) (.file (content (some old))))
          | none => (.ok (), tree.put (place ++ [name]) (.file (content none))) := by
  refine (bind_site path _ tree).trans ?_
  cases tree.site path with
  | error error => rfl
  | ok site =>
      obtain ⟨place, _ | name⟩ := site
      · rfl
      · dsimp only
        split
        · rfl
        · cases tree.entryAt (place ++ [name]) with
          | none => rfl
          | some entry => cases entry <;> rfl

/-- What is updated is a file at the place that its path names, or becomes one; a failure changes
nothing. -/
theorem update_cases {path : String} {content : Option Bytes → Bytes} {tree after : FileTree}
    {result : Except IoError Unit} (h : update path content tree = (result, after)) :
    (∃ place name old?, result = .ok () ∧ Path.endsInSlash path = false ∧
      tree.site path = .ok (place, some name) ∧ tree.entryAt (place ++ [name]) ≠ some .directory ∧
      after = tree.put (place ++ [name]) (.file (content old?))) ∨
    ∃ error, result = .error error ∧ after = tree := by
  rw [update_eq] at h
  split at h
  · cases h
    exact .inr ⟨_, rfl, rfl⟩
  · cases h
    exact .inr ⟨_, rfl, rfl⟩
  · next place name hsite =>
      split at h
      · cases h
        exact .inr ⟨_, rfl, rfl⟩
      · next hslash =>
          have hslash := Bool.eq_false_iff.mpr hslash
          split at h
          · cases h
            exact .inr ⟨_, rfl, rfl⟩
          · next old hentry =>
              cases h
              exact .inl ⟨place, name, some old, rfl, hslash, hsite, by simp [hentry], rfl⟩
          · next hentry =>
              cases h
              exact .inl ⟨place, name, none, rfl, hslash, hsite, by simp [hentry], rfl⟩

end FileTree

end RegionGateway
