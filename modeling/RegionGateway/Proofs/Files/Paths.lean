import Mathlib.Tactic.Common
import RegionGateway.Files.Path
import RegionGateway.Proofs.Text.Parts

/-!
# Paths below a directory

The parts of a path below a directory are those of the directory and then the name (`split_below`,
`parts_below`). A path made of parts has these parts again (`parts_ofParts`), and starts where the path
they were taken from starts (`isAbsolute_ofParts`).
-/

namespace RegionGateway.Path

/-- Whether a part of a path leads to another directory. -/
def leads (part : String) : Bool := part != "" && part != "."

theorem leads_iff {part : String} : leads part = true ↔ part ≠ "" ∧ part ≠ "." := by simp [leads]

theorem parts_eq_filter (path : String) : parts path = (Text.split '/' path).filter leads := rfl

/-- A name of something in a directory. -/
structure IsName (name : String) : Prop where
  leads : leads name = true
  ne_dots : name ≠ ".."
  no_slash : '/' ∉ name.toList

theorem IsName.ne_empty {name : String} (h : IsName name) : name ≠ "" := (leads_iff.mp h.leads).1

/-- A text without slashes, with the extension, is a name of a file. -/
theorem isName_append (stem : String) (h : '/' ∉ stem.toList) : IsName (stem ++ ".rs") := by
  have hlast : (stem ++ ".rs").toList.getLast? = some 's' := by
    rw [String.toList_append, List.getLast?_append]
    rfl
  have hne : ∀ other ∈ ["", ".", ".."], stem ++ ".rs" ≠ other := by
    rintro other hother rfl
    have hends : ∀ other ∈ ["", ".", ".."], other.toList.getLast? ≠ some 's' := by decide
    exact hends _ hother hlast
  refine ⟨leads_iff.mpr ⟨hne _ (by simp), hne _ (by simp)⟩, hne _ (by simp), ?_⟩
  rw [String.toList_append, List.mem_append]
  rintro (hstem | hextension)
  · exact h hstem
  · revert hextension
    decide

theorem isName_mod : IsName "mod.rs" := isName_append "mod" (by decide)

theorem slash_eq : "/" = String.singleton '/' := rfl

/-! ## Absolute paths -/

theorem isAbsolute_iff {path : String} : isAbsolute path = true ↔ ∃ rest, path = "/" ++ rest := by
  have habsolute : isAbsolute path = true ↔ ['/'] <+: path.toList := List.isPrefixOf_iff_prefix
  rw [habsolute]
  constructor
  · rintro ⟨rest, hrest⟩
    exact ⟨String.ofList rest, String.toList_inj.mp (by rw [← hrest, String.toList_append]; simp)⟩
  · rintro ⟨rest, rfl⟩
    exact ⟨rest.toList, by rw [String.toList_append]; rfl⟩

theorem split_slash_append (path : String) : Text.split '/' ("/" ++ path) = "" :: Text.split '/' path := by
  have hempty : Text.split '/' ("" ++ "/" ++ path) = _ := Text.split_append "" path
  rwa [String.empty_append] at hempty

theorem not_isAbsolute_of_no_slash {name : String} (h : '/' ∉ name.toList) : isAbsolute name = false := by
  refine Bool.eq_false_iff.mpr fun habsolute => ?_
  obtain ⟨rest, rfl⟩ := isAbsolute_iff.mp habsolute
  exact h (by simp)

theorem isAbsolute_append {path : String} (h : path ≠ "") (rest : String) :
    isAbsolute (path ++ rest) = isAbsolute path := by
  have hchars : path.toList ≠ [] := fun hnil => h (String.toList_eq_nil_iff.mp hnil)
  obtain ⟨c, cs, hcs⟩ := List.exists_cons_of_ne_nil hchars
  have hslash : "/".toList = ['/'] := rfl
  simp only [isAbsolute, Text.startsWith, String.toList_append, hcs, hslash, List.cons_append,
    List.isPrefixOf_cons_cons, List.isPrefixOf_nil_left]

theorem isAbsolute_below {directory name : String} (h : IsName name) :
    isAbsolute (below directory name) = isAbsolute directory := by
  have hname := not_isAbsolute_of_no_slash h.no_slash
  unfold below
  by_cases hempty : directory = ""
  · rw [hempty, if_pos (by simp), hname]
    rfl
  · rw [if_neg (by simp [hname, hempty])]
    split
    · exact isAbsolute_append hempty name
    · rw [String.append_assoc]
      exact isAbsolute_append hempty _

/-! ## Parts -/

theorem endsInSlash_iff {path : String} : endsInSlash path = true ↔ ∃ start, path = start ++ "/" := by
  unfold endsInSlash
  rw [beq_iff_eq, List.getLast?_eq_some_iff]
  constructor
  · rintro ⟨start, hstart⟩
    exact ⟨String.ofList start, String.toList_inj.mp (by rw [hstart, String.toList_append]; simp)⟩
  · rintro ⟨start, rfl⟩
    exact ⟨start.toList, by rw [String.toList_append]; rfl⟩

theorem split_append_slash (path : String) : Text.split '/' (path ++ "/") = Text.split '/' path ++ [""] := by
  have hempty : Text.split '/' (path ++ "/" ++ "") = _ := Text.split_append path ""
  rwa [String.append_empty] at hempty

/-- The parts of a path below a directory: those of the directory, and the name. -/
theorem split_below (directory : String) {name : String} (h : IsName name) :
    ∃ front, Text.split '/' (below directory name) = front ++ [name] ∧
      front.filter leads = parts directory := by
  have hname : Text.split '/' name = [name] := Text.split_of_not_mem h.no_slash
  have habsolute := not_isAbsolute_of_no_slash h.no_slash
  unfold below
  by_cases hempty : directory = ""
  · rw [hempty, if_pos (by simp)]
    exact ⟨[], hname, rfl⟩
  · rw [if_neg (by simp [habsolute, hempty])]
    split
    · next hslash =>
        obtain ⟨start, rfl⟩ := endsInSlash_iff.mp (beq_iff_eq.mpr hslash)
        refine ⟨Text.split '/' start, ?_, ?_⟩
        · rw [slash_eq, Text.split_append, hname]
        · rw [parts_eq_filter, split_append_slash, List.filter_append]
          exact (List.append_nil _).symm
    · exact ⟨Text.split '/' directory, by rw [slash_eq, Text.split_append, hname], rfl⟩

theorem parts_below {directory name : String} (h : IsName name) :
    parts (below directory name) = parts directory ++ [name] := by
  obtain ⟨front, hsplit, hfront⟩ := split_below directory h
  rw [parts_eq_filter, hsplit, List.filter_append, hfront, List.filter_cons_of_pos h.leads,
    List.filter_nil]

theorem segments_below {directory name : String} (h : IsName name) :
    segments (below directory name) = Text.split '/' (below directory name) := by
  obtain ⟨front, hsplit, -⟩ := split_below directory h
  rw [segments, hsplit, Text.dropEndWhile_concat (q := (· == "")) (beq_eq_false_iff_ne.mpr h.ne_empty)]

/-- Nothing is dropped at the end of a path without a slash there. -/
theorem segments_eq_split {path : String} (hne : path ≠ "") (h : endsInSlash path = false) :
    segments path = Text.split '/' path := by
  have hparts : Text.split '/' path ≠ [] := by simpa [Text.split] using Text.splitChars_ne_nil _
  obtain ⟨front, last, hsplit⟩ : ∃ front last, Text.split '/' path = front ++ [last] :=
    ⟨_, _, (List.dropLast_concat_getLast hparts).symm⟩
  have hlast : last ≠ "" := by
    rintro rfl
    have hpath : Text.join (String.singleton '/') (Text.split '/' path) = path := Text.join_split path
    rw [hsplit] at hpath
    cases front with
    | nil => exact hne hpath.symm
    | cons part front =>
        -- the path is what stands before the last slash, and the slash
        have hno : ∀ other ∈ part :: front, '/' ∉ other.toList := fun other hother =>
          Text.not_mem_of_mem_split (s := path) (by rw [hsplit]; exact List.mem_append_left _ hother)
        have hstart := split_append_slash (Text.join "/" (part :: front))
        rw [slash_eq, Text.split_join (by simp) hno] at hstart
        have hsame : Text.join (String.singleton '/')
            (Text.split '/' (Text.join "/" (part :: front) ++ "/")) = Text.join "/" (part :: front) ++ "/" :=
          Text.join_split _
        rw [slash_eq, hstart, hpath] at hsame
        exact Bool.eq_false_iff.mp h (endsInSlash_iff.mpr ⟨_, hsame⟩)
  rw [segments, hsplit, Text.dropEndWhile_concat (q := (· == "")) (beq_eq_false_iff_ne.mpr hlast)]

/-- Different names below a directory make different paths. -/
theorem below_inj {directory name name' : String} (h : IsName name) (h' : IsName name')
    (hsame : below directory name = below directory name') : name = name' := by
  have hparts := congrArg parts hsame
  rw [parts_below h, parts_below h'] at hparts
  exact (List.cons.inj (List.append_cancel_left hparts)).1

theorem mem_parts {path part : String} (h : part ∈ parts path) :
    leads part = true ∧ '/' ∉ part.toList :=
  ⟨(List.mem_filter.mp h).2, Text.not_mem_of_mem_split (List.mem_filter.mp h).1⟩

/-- What is dropped at the end of a path leads nowhere. -/
theorem filter_segments (path : String) : (segments path).filter leads = parts path := by
  have hdrop : ∀ as : List String,
      (Text.dropEndWhile (· == "") as).filter leads = as.filter leads := by
    intro as
    induction as with
    | nil => rfl
    | cons a as ih =>
        rw [Text.dropEndWhile, List.filter_cons, ← ih]
        cases hkept : Text.dropEndWhile (· == "") as with
        | nil =>
            by_cases ha : a = ""
            · simp [ha, leads]
            · simp [ha, List.filter_cons]
        | cons b bs => simp [List.filter_cons]
  exact hdrop _

section

variable {path : String} {ps : List String} (h : ∀ part ∈ ps, leads part = true ∧ '/' ∉ part.toList)
include h

theorem parts_join : parts (Text.join "/" ps) = ps := by
  cases ps with
  | nil => rfl
  | cons part rest =>
      rw [parts_eq_filter, slash_eq, Text.split_join (by simp) fun part hpart => (h part hpart).2]
      exact List.filter_eq_self.mpr fun part hpart => (h part hpart).1

theorem isAbsolute_join : isAbsolute (Text.join "/" ps) = false := by
  refine Bool.eq_false_iff.mpr fun habsolute => ?_
  cases ps with
  | nil => exact absurd habsolute (by decide)
  | cons part rest =>
      obtain ⟨tail, htail⟩ := isAbsolute_iff.mp habsolute
      have hsplit := congrArg (Text.split '/') htail
      rw [split_slash_append, slash_eq,
        Text.split_join (by simp) fun part hpart => (h part hpart).2] at hsplit
      have hempty : part = "" := (List.cons.inj hsplit).1
      exact (leads_iff.mp (h part List.mem_cons_self).1).1 hempty

theorem parts_ofParts : parts (ofParts path ps) = ps := by
  unfold ofParts
  split
  · rw [parts_eq_filter, split_slash_append]
    exact parts_join h
  · rw [String.empty_append]
    exact parts_join h

theorem isAbsolute_ofParts : isAbsolute (ofParts path ps) = isAbsolute path := by
  unfold ofParts
  split
  · next habsolute => rw [habsolute]; exact isAbsolute_iff.mpr ⟨_, rfl⟩
  · next hrelative =>
      rw [String.empty_append, isAbsolute_join h]
      exact (Bool.eq_false_iff.mpr hrelative).symm

end

end RegionGateway.Path
