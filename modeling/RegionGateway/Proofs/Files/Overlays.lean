import RegionGateway.Proofs.Files.Trees
import RegionGateway.Proofs.Text.Encoding

/-!
# Files written over a tree

What a tree is after files were written one after the other, and directories were made on the way to one
directory (`Overlaid`): each path leads to its own place, where the content written last stands; any other
place is as it was, or a new directory on that way. The relation can be joined (`traced_overlaid`), and
each operation goes along it (`leads_makeDirectories`, `advances_writeText`).
-/

namespace RegionGateway

namespace FileTree

/-- What is written last at a place, of contents written at paths. -/
def lastWritten (tree : FileTree) (files : List (String × Bytes)) (place : Place) : Option Bytes :=
  (files.map fun file => (tree.placeOf file.1, file.2)).reverse.lookup place

@[simp] theorem lastWritten_nil (tree : FileTree) (place : Place) : tree.lastWritten [] place = none := rfl

theorem lastWritten_append (tree : FileTree) (first next : List (String × Bytes)) (place : Place) :
    tree.lastWritten (first ++ next) place =
      (tree.lastWritten next place).or (tree.lastWritten first place) := by
  rw [lastWritten, List.map_append, List.reverse_append, List.lookup_append]
  rfl

theorem lastWritten_singleton (tree : FileTree) (path : String) (content : Bytes) (place : Place) :
    tree.lastWritten [(path, content)] place =
      if place = tree.placeOf path then some content else none := by
  by_cases hsame : place = tree.placeOf path
  · simp [lastWritten, hsame]
  · simp [lastWritten, List.lookup_cons, hsame, beq_eq_false_iff_ne.mpr hsame]

theorem lastWritten_eq_none {tree : FileTree} {files : List (String × Bytes)} {place : Place} :
    tree.lastWritten files place = none ↔ ∀ file ∈ files, place ≠ tree.placeOf file.1 := by
  rw [lastWritten, List.lookup_eq_none_iff]
  simp only [List.mem_reverse, List.forall_mem_map, bne_iff_ne]

/-- A tree after files were written, and directories made on the way to a directory. -/
structure Overlaid (directory : String) (before : FileTree) (files : List (String × Bytes))
    (after : FileTree) : Prop extends Kept before after where
  /-- The path of a file leads to its place. -/
  located : ∀ file ∈ files, after.locate file.1 = .ok (before.placeOf file.1)
  written : ∀ {place content}, before.lastWritten files place = some content →
    after.entryAt place = some (.file content)
  /-- A place where no file is written is as it was, or a new directory on the way. -/
  frame : ∀ {place}, before.lastWritten files place = none →
    after.entryAt place = before.entryAt place ∨
      before.entryAt place = none ∧ after.entryAt place = some .directory ∧
        place ∈ before.wayTo directory

namespace Overlaid

variable {directory : String} {r s t : FileTree} {xs ys : List (String × Bytes)}

theorem nil (s : FileTree) : Overlaid directory s [] s where
  workingDirectory := rfl
  directories := id
  located := by simp
  written := by simp
  frame := fun _ => .inl rfl

theorem append (h : Overlaid directory r xs s) (h' : Overlaid directory s ys t) :
    Overlaid directory r (xs ++ ys) t := by
  have hlast : s.lastWritten ys = r.lastWritten ys := by
    funext place
    simp only [lastWritten, h.toKept.placeOf]
  have hkept : Kept r t := ⟨h'.workingDirectory.trans h.workingDirectory, fun hplace =>
    h'.directories (h.directories hplace)⟩
  refine ⟨hkept, ?_, ?_, ?_⟩
  · intro file hfile
    rcases List.mem_append.mp hfile with hfile | hfile
    · exact h'.toKept.locate (h.located file hfile)
    · rw [← h.toKept.placeOf]
      exact h'.located file hfile
  · intro place content hwritten
    rw [lastWritten_append, ← hlast] at hwritten
    cases hnext : s.lastWritten ys place with
    | some later =>
        rw [hnext, Option.some_or] at hwritten
        rw [← Option.some.inj hwritten]
        exact h'.written hnext
    | none =>
        -- the first file stays: no directory is made where something is
        rw [hnext, Option.none_or] at hwritten
        have hthere := h.written hwritten
        rcases h'.frame hnext with hsame | ⟨hnone, -⟩
        · rw [hsame, hthere]
        · rw [hthere] at hnone
          cases hnone
  · intro place hnone
    rw [lastWritten_append, ← hlast, Option.or_eq_none_iff] at hnone
    rcases h'.frame hnone.1 with hsame | ⟨hfree, hmade, hway⟩
    · rw [hsame]
      exact h.frame hnone.2
    · rw [h.toKept.wayTo] at hway
      rcases h.frame hnone.2 with hsame | ⟨-, hdirectory, -⟩
      · exact .inr ⟨hsame ▸ hfree, hmade, hway⟩
      · rw [hdirectory] at hfree
        cases hfree

/-- Only the way to the directory matters. -/
theorem of_wayTo {other : String} (hway : ∀ tree : FileTree, tree.wayTo other = tree.wayTo directory)
    (h : Overlaid other s xs t) : Overlaid directory s xs t :=
  ⟨h.toKept, h.located, h.written, fun hnone => hway s ▸ h.frame hnone⟩

end Overlaid

theorem traced_overlaid (directory : String) : Attempt.Traced (Overlaid directory) where
  nil := Overlaid.nil
  append := Overlaid.append

/-- Directories made on the way to a directory. -/
theorem chain_overlaid (directory : String) : Attempt.Chain (Overlaid directory · [] ·) where
  refl := Overlaid.nil
  trans := fun _ _ _ h h' => h.append h'

/-! ## Making directories -/

variable {directory : String}

theorem overlaid_put_directory {tree : FileTree} {place : Place} (hplace : place ≠ [])
    (hfree : tree.entryAt place = none) (hway : place ∈ tree.wayTo directory) :
    Overlaid directory tree [] (tree.put place .directory) := by
  refine ⟨⟨rfl, fun {other} hother => ?_⟩, by simp, by simp, fun {other} _ => ?_⟩
  · rw [entryAt_put tree hplace]
    split
    · rfl
    · exact hother
  · rw [entryAt_put tree hplace]
    split
    · next hsame => exact .inr (hsame ▸ ⟨hfree, rfl, hway⟩)
    · exact .inl rfl

theorem leads_makeDirectory {path : String}
    (hway : ∀ tree : FileTree, tree.placeOf path ∈ tree.wayTo directory) :
    (makeDirectory path).Leads (Overlaid directory · [] ·) fun _ => True := by
  refine fun tree => ⟨?_, fun _ _ => trivial⟩
  rw [makeDirectory_eq]
  split
  · exact .nil tree
  · exact .nil tree
  · next place name hsite =>
      split
      · exact .nil tree
      · next hfree =>
          refine overlaid_put_directory (by simp) (by simpa using hfree) ?_
          rw [placeOf_of_site hsite]
          exact hway tree

theorem leads_ensureDirectory {path : String}
    (hway : ∀ tree : FileTree, tree.placeOf path ∈ tree.wayTo directory) :
    (ensureDirectory path).Leads (Overlaid directory · [] ·) fun _ => True := by
  refine fun tree => ⟨?_, fun _ _ => trivial⟩
  have hmade := (leads_makeDirectory hway tree).1
  unfold ensureDirectory
  split
  · next hfailed => rwa [hfailed] at hmade
  · exact hmade

theorem leads_makeBelow {paths : List String}
    (hway : ∀ path ∈ paths, ∀ tree : FileTree, tree.placeOf path ∈ tree.wayTo directory) :
    (makeBelow paths).Leads (Overlaid directory · [] ·) fun _ => True := by
  have hchain := chain_overlaid directory
  induction paths with
  | nil => exact Attempt.leads_pure hchain trivial
  | cons path above ih =>
      obtain ⟨hpath, habove⟩ := List.forall_mem_cons.mp hway
      have hget : (get : Attempt FileTree IoError FileTree).Leads (Overlaid directory · [] ·)
          fun _ => True := fun tree => ⟨.nil tree, fun _ _ => trivial⟩
      unfold makeBelow
      refine Attempt.leads_bind hchain hget fun tree _ => ?_
      split
      · exact Attempt.leads_bind hchain (ih habove) fun _ _ => leads_ensureDirectory hpath
      · exact leads_ensureDirectory hpath

theorem leads_makeDirectories (path : String) :
    Attempt.Leads (Overlaid path · [] ·) (fun _ => True)
      (disk.makeDirectories path : Attempt FileTree IoError Unit) := by
  show Attempt.Leads _ _ (if path = "" then pure () else makeBelow (path :: Path.above path))
  split
  · exact Attempt.leads_pure (chain_overlaid path) trivial
  · refine leads_makeBelow (List.forall_mem_cons.mpr ⟨fun tree => tree.placeOf_mem_wayTo path, ?_⟩)
    exact fun other hother tree => tree.placeOf_above_mem hother

/-- The directory of a path below a directory is made on the way to that. -/
theorem leads_makeParent {name : String} (h : Path.IsName name) :
    Attempt.Leads (Overlaid directory · [] ·) (fun _ => True)
      (disk.makeParent (Path.below directory name) : Attempt FileTree IoError Unit) := by
  have hparent : Path.parent? (Path.below directory name) =
      some (Path.ofParts (Path.below directory name) (Path.parts directory)) := by
    unfold Path.parent?
    rw [Path.parts_below h]
    cases hparts : Path.parts directory with
    | nil => rfl
    | cons part rest =>
        rw [List.cons_append]
        dsimp only
        rw [← List.cons_append, List.dropLast_concat]
  have hway (tree : FileTree) :
      tree.wayTo (Path.ofParts (Path.below directory name) (Path.parts directory)) =
        tree.wayTo directory := tree.wayTo_ofParts directory _ (Path.isAbsolute_below h)
  unfold Disk.makeParent
  rw [hparent]
  intro tree
  exact ⟨.of_wayTo hway (leads_makeDirectories _ tree).1, fun _ _ => trivial⟩

/-! ## Writing -/

theorem overlaid_put_file {tree : FileTree} {path name : String} {place : Place} (content : Bytes)
    (hsegments : Path.segments path = Text.split '/' path)
    (hsite : tree.site path = .ok (place, some name))
    (hfile : tree.entryAt (place ++ [name]) ≠ some .directory) :
    Overlaid directory tree [(path, content)] (tree.put (place ++ [name]) (.file content)) := by
  have hplace : place ++ [name] ≠ [] := by simp
  have hput := entryAt_put tree hplace (.file content)
  have hkept : Kept tree (tree.put (place ++ [name]) (.file content)) := by
    refine ⟨rfl, fun {other} hother => ?_⟩
    have hne : other ≠ place ++ [name] := fun hsame => hfile (hsame ▸ hother)
    rw [hput, if_neg hne]
    exact hother
  have hlast := tree.lastWritten_singleton path content
  rw [← placeOf_of_site hsite] at hlast
  refine ⟨hkept, ?_, ?_, ?_⟩
  · rintro file hmem
    rw [List.mem_singleton.mp hmem, ← placeOf_of_site hsite]
    exact hkept.locate (locate_of_site hsegments hsite)
  · intro other written hwritten
    rw [hlast] at hwritten
    rw [hput]
    split at hwritten
    · next hsame => rw [if_pos hsame, Option.some.inj hwritten]
    · cases hwritten
  · intro other hnone
    rw [hlast] at hnone
    rw [hput]
    split at hnone
    · cases hnone
    · next hother => exact .inl (if_neg hother)

theorem advances_writeText {name : String} (h : Path.IsName name) (text : String) :
    Attempt.Advances (Overlaid directory) [(Path.below directory name, Utf8.bytes text)]
      (disk.writeText (Path.below directory name) text : Attempt FileTree IoError Unit) := by
  have hupdate (path : String) : (disk.writeText path text : Attempt FileTree IoError Unit) =
      update path fun _ => Utf8.bytes text := rfl
  rw [hupdate]
  constructor
  · intro tree a after hwrite
    obtain ⟨place, name', _, -, -, hsite, hfile, rfl⟩ | ⟨error, hfailed, -⟩ := update_cases hwrite
    · exact overlaid_put_file _ (Path.segments_below h) hsite hfile
    · cases hfailed
  · intro tree error after hwrite
    obtain ⟨place, name', _, hdone, -⟩ | ⟨_, -, rfl⟩ := update_cases hwrite
    · cases hdone
    · exact ⟨[], _, rfl, List.cons_ne_nil _ _, .nil _⟩

theorem disk_read (path : String) (tree : FileTree) :
    (disk.read path : Attempt FileTree IoError Bytes) tree = (tree.read path, tree) := rfl

theorem disk_isThere (ε : Type) (path : String) (tree : FileTree) :
    (liftM (disk.isThere path) : Attempt FileTree ε Bool) tree = (.ok (tree.isThere path), tree) := rfl

theorem isThere_of_read {tree : FileTree} {path : String} {content : Bytes}
    (h : tree.read path = .ok content) : tree.isThere path = true := by
  unfold read at h
  unfold isThere
  cases hplace : tree.locate path with
  | error error =>
      rw [hplace] at h
      cases h
  | ok place =>
      rw [hplace] at h
      dsimp only at h ⊢
      cases hentry : tree.entryAt place with
      | none =>
          rw [hentry] at h
          cases h
      | some entry => rfl

/-- Text is read where its bytes are. -/
theorem readText_of_read {tree : FileTree} {path text : String} (h : tree.read path = .ok (Utf8.bytes text)) :
    (disk.readText path : Attempt FileTree IoError String) tree = (.ok text, tree) := by
  have hread : (disk.read path : Attempt FileTree IoError Bytes) tree = (.ok (Utf8.bytes text), tree) := by
    rw [disk_read, h]
  refine (Attempt.bind_ok _ hread).trans ?_
  rw [Utf8.text?_bytes]
  rfl

/-- What was written to a path is read there. -/
theorem read_of_writeText {path text : String} {tree after : FileTree}
    (h : (disk.writeText path text : Attempt FileTree IoError Unit) tree = (.ok (), after)) :
    after.read path = .ok (Utf8.bytes text) := by
  have hupdate : (disk.writeText path text : Attempt FileTree IoError Unit) =
      update path fun _ => Utf8.bytes text := rfl
  rw [hupdate] at h
  obtain ⟨place, name, _, -, hslash, hsite, hfile, rfl⟩ | ⟨error, hfailed, -⟩ := update_cases h
  · have hne : path ≠ "" := by
      rintro rfl
      cases (site_eq_ok hsite).1
    have hlast : tree.lastWritten [(path, Utf8.bytes text)] (tree.placeOf path) = some (Utf8.bytes text) := by
      rw [lastWritten_singleton, if_pos rfl]
    have hwritten : Overlaid "" tree [(path, Utf8.bytes text)] _ :=
      overlaid_put_file (Utf8.bytes text) (Path.segments_eq_split hne hslash) hsite hfile
    have hentry := hwritten.written hlast
    rw [FileTree.read, hwritten.located (path, Utf8.bytes text) List.mem_cons_self]
    dsimp only
    rw [hentry]
  · cases hfailed

end FileTree

end RegionGateway
