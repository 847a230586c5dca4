import RegionGateway.Proofs.Files.Trees

/-!
# What a file holds does not matter

Two trees may differ in what one file holds (`AlikeBut`). Paths lead to the same places in both
(`AlikeBut.walk`, `AlikeBut.site`), and operations that do not read the file do the same in both and leave
trees that still differ in nothing else (`Blind`): making directories (`blind_makeDirectories`) and
writing (`blind_writeText`) are such operations, and so is what is sequenced of them.
-/

namespace RegionGateway

namespace FileTree

variable {place : Place} {tree other : FileTree}

/-- Trees that differ in nothing but what a file at a place holds. -/
structure AlikeBut (place : Place) (tree other : FileTree) : Prop where
  workingDirectory : other.workingDirectory = tree.workingDirectory
  elsewhere : ∀ {p}, p ≠ place → other.entryAt p = tree.entryAt p
  file : ∃ content content', tree.entryAt place = some (.file content) ∧
    other.entryAt place = some (.file content')

namespace AlikeBut

theorem entry_cases (h : AlikeBut place tree other) (p : Place) : other.entryAt p = tree.entryAt p ∨
    ∃ content content', tree.entryAt p = some (.file content) ∧ other.entryAt p = some (.file content') := by
  by_cases hp : p = place
  · exact .inr (hp ▸ h.file)
  · exact .inl (h.elsewhere hp)

theorem isSome_entryAt (h : AlikeBut place tree other) (p : Place) :
    (other.entryAt p).isSome = (tree.entryAt p).isSome := by
  rcases h.entry_cases p with hsame | ⟨_, _, hfile, hfile'⟩
  · rw [hsame]
  · rw [hfile, hfile']
    rfl

theorem walk (h : AlikeBut place tree other) (p : Place) (parts : List String) :
    other.walk p parts = tree.walk p parts := by
  induction parts generalizing p with
  | nil => rfl
  | cons part parts ih =>
      unfold FileTree.walk
      rcases h.entry_cases p with hsame | ⟨_, _, hfile, hfile'⟩
      · simp only [hsame, ih]
      · rw [hfile, hfile']

theorem start (h : AlikeBut place tree other) (path : String) : other.start path = tree.start path := by
  rw [FileTree.start, FileTree.start, h.workingDirectory]

theorem locate (h : AlikeBut place tree other) (path : String) : other.locate path = tree.locate path := by
  simp only [FileTree.locate, h.start, h.walk]

theorem site (h : AlikeBut place tree other) (path : String) : other.site path = tree.site path := by
  simp only [FileTree.site, h.start, h.walk]

theorem isDirectory (h : AlikeBut place tree other) (path : String) :
    other.isDirectory path = tree.isDirectory path := by
  unfold FileTree.isDirectory
  rw [h.locate]
  cases tree.locate path with
  | error error => rfl
  | ok p =>
      dsimp only
      rcases h.entry_cases p with hsame | ⟨_, _, hfile, hfile'⟩
      · rw [hsame]
      · rw [hfile, hfile']
        rfl

/-- An entry is put at the same place in both; where the trees differ it is a file. -/
theorem put (h : AlikeBut place tree other) {p : Place} (hp : p ≠ []) {entry : Entry}
    (hfile : p = place → ∃ content, entry = .file content) :
    AlikeBut place (tree.put p entry) (other.put p entry) where
  workingDirectory := h.workingDirectory
  elsewhere {q} hq := by
    rw [entryAt_put tree hp, entryAt_put other hp, h.elsewhere hq]
  file := by
    rw [entryAt_put tree hp, entryAt_put other hp]
    by_cases hsame : place = p
    · obtain ⟨content, rfl⟩ := hfile hsame.symm
      exact ⟨content, content, if_pos hsame, if_pos hsame⟩
    · rw [if_neg hsame, if_neg hsame]
      exact h.file

end AlikeBut

/-! ## Operations that do not read the file -/

section

variable {α β ε ε' : Type}

/-- An operation that does the same over trees that differ in nothing but what a file at a place holds. -/
def Blind (place : Place) (operation : Attempt FileTree ε α) : Prop :=
  ∀ ⦃tree other⦄, AlikeBut place tree other →
    (operation other).1 = (operation tree).1 ∧ AlikeBut place (operation tree).2 (operation other).2

theorem blind_pure (a : α) : Blind place (pure a : Attempt FileTree ε α) := fun _ _ h => ⟨rfl, h⟩

theorem blind_throw (error : ε) : Blind place (throw error : Attempt FileTree ε α) := fun _ _ h => ⟨rfl, h⟩

theorem blind_bind {x : Attempt FileTree ε α} {f : α → Attempt FileTree ε β} (hx : Blind place x)
    (hf : ∀ a, Blind place (f a)) : Blind place (x >>= f) := by
  intro tree other h
  obtain ⟨hresult, hafter⟩ := hx h
  rcases htree : x tree with ⟨result, after⟩
  rcases hother : x other with ⟨result', after'⟩
  rw [htree, hother] at hresult hafter
  obtain rfl : result' = result := hresult
  cases result' with
  | error error =>
      rw [Attempt.bind_error f htree, Attempt.bind_error f hother]
      exact ⟨rfl, hafter⟩
  | ok a =>
      rw [Attempt.bind_ok f htree, Attempt.bind_ok f hother]
      exact hf a hafter

theorem blind_forM {f : α → Attempt FileTree ε PUnit} (hf : ∀ a, Blind place (f a)) (as : List α) :
    Blind place (as.forM f) := by
  induction as with
  | nil => exact blind_pure _
  | cons a as ih => exact blind_bind (hf a) fun _ => ih

theorem blind_adapt (f : ε → ε') {x : Attempt FileTree ε α} (hx : Blind place x) :
    Blind place (x.adapt f : Attempt FileTree ε' α) := by
  intro tree other h
  obtain ⟨hresult, hafter⟩ := hx h
  have htree := Attempt.adapt_eq f (show x tree = ((x tree).1, (x tree).2) from rfl)
  have hother := Attempt.adapt_eq f (show x other = ((x other).1, (x other).2) from rfl)
  rw [htree, hother, hresult]
  exact ⟨rfl, hafter⟩

end

/-! ## Directories and files -/

theorem blind_makeDirectory (path : String) : Blind place (makeDirectory path) := by
  intro tree other h
  rw [makeDirectory_eq, makeDirectory_eq, h.site]
  cases tree.site path with
  | error error => exact ⟨rfl, h⟩
  | ok site =>
      obtain ⟨p, _ | name⟩ := site
      · exact ⟨rfl, h⟩
      · dsimp only
        rw [h.isSome_entryAt]
        split
        · exact ⟨rfl, h⟩
        · next hfree =>
            refine ⟨rfl, h.put (by simp) fun hsame => ?_⟩
            obtain ⟨content, _, hfile, -⟩ := h.file
            rw [hsame, hfile] at hfree
            exact absurd rfl hfree

theorem blind_ensureDirectory (path : String) : Blind place (ensureDirectory path) := by
  intro tree other h
  obtain ⟨hresult, hafter⟩ := blind_makeDirectory path h
  unfold ensureDirectory
  rcases htree : makeDirectory path tree with ⟨result, after⟩
  rcases hother : makeDirectory path other with ⟨result', after'⟩
  rw [htree, hother] at hresult hafter
  obtain rfl : result' = result := hresult
  cases result' with
  | error error => exact ⟨by dsimp only; rw [hafter.isDirectory], hafter⟩
  | ok _ => exact ⟨rfl, hafter⟩

theorem blind_makeBelow (paths : List String) : Blind place (makeBelow paths) := by
  induction paths with
  | nil => exact blind_pure _
  | cons path above ih =>
      intro tree other h
      have hlacks : other.lacksParent path = tree.lacksParent path := by
        unfold lacksParent
        rw [(blind_makeDirectory path h).1]
      have hcases (tree : FileTree) : makeBelow (path :: above) tree =
          (if tree.lacksParent path then makeBelow above >>= fun _ => ensureDirectory path
            else ensureDirectory path) tree := by
        have hget : (get : Attempt FileTree IoError FileTree) tree = (.ok tree, tree) := rfl
        rw [makeBelow, Attempt.bind_ok _ hget]
      rw [hcases, hcases, hlacks]
      split
      · exact blind_bind ih (fun _ => blind_ensureDirectory path) h
      · exact blind_ensureDirectory path h

theorem blind_makeDirectories (path : String) :
    Blind place (disk.makeDirectories path : Attempt FileTree IoError Unit) := by
  show Blind place (if path = "" then pure () else makeBelow (path :: Path.above path))
  split
  · exact blind_pure ()
  · exact blind_makeBelow _

theorem blind_makeParent (path : String) :
    Blind place (disk.makeParent path : Attempt FileTree IoError Unit) := by
  unfold Disk.makeParent
  split
  · exact blind_pure ()
  · exact blind_makeDirectories _

/-- What is written is the same in both, so that the trees differ no longer if it goes to that file. -/
theorem blind_writeText (path text : String) :
    Blind place (disk.writeText path text : Attempt FileTree IoError Unit) := by
  intro tree other h
  have hupdate : (disk.writeText path text : Attempt FileTree IoError Unit) =
      update path fun _ => Utf8.bytes text := rfl
  rw [hupdate, update_eq, update_eq, h.site]
  cases tree.site path with
  | error error => exact ⟨rfl, h⟩
  | ok site =>
      obtain ⟨p, _ | name⟩ := site
      · exact ⟨rfl, h⟩
      · have hput : AlikeBut place (tree.put (p ++ [name]) (.file (Utf8.bytes text)))
            (other.put (p ++ [name]) (.file (Utf8.bytes text))) := h.put (by simp) fun _ => ⟨_, rfl⟩
        dsimp only
        split
        · exact ⟨rfl, h⟩
        · rcases h.entry_cases (p ++ [name]) with hsame | ⟨_, _, hfile, hfile'⟩
          · rw [hsame]
            split
            · exact ⟨rfl, h⟩
            · exact ⟨rfl, hput⟩
            · exact ⟨rfl, hput⟩
          · rw [hfile, hfile']
            exact ⟨rfl, hput⟩

end FileTree

end RegionGateway
