import Mathlib.Data.List.TakeWhile
import Mathlib.Tactic.Common
import RegionGateway.Text.Blank

/-!
# Parts of a text

A text is split at its separators: no part has one (`not_mem_of_mem_split`), a separator ends a part
(`split_append`), and splitting and joining undo each other (`split_join`, `join_split`). What is trimmed off a
text is white space (`exists_trimChars`), and an ending that was added can be dropped (`dropEnd?_append`).
-/

namespace RegionGateway.Text

variable {p : Char → Bool}

theorem splitChars_ne_nil (cs : List Char) : splitChars p cs ≠ [] := by
  cases cs with
  | nil => simp [splitChars]
  | cons c cs =>
      unfold splitChars
      split
      · simp
      · split <;> simp

theorem splitChars_of_not_mem {cs : List Char} (h : ∀ c ∈ cs, p c = false) : splitChars p cs = [cs] := by
  induction cs with
  | nil => rfl
  | cons c cs ih =>
      obtain ⟨hfirst, hrest⟩ := List.forall_mem_cons.mp h
      simp [splitChars, hfirst, ih hrest]

/-- A separator ends the part before it. -/
theorem splitChars_append {c : Char} (h : p c = true) (xs ys : List Char) :
    splitChars p (xs ++ c :: ys) = splitChars p xs ++ splitChars p ys := by
  induction xs with
  | nil => simp [splitChars, h]
  | cons x xs ih =>
      simp only [List.cons_append, splitChars]
      split
      · rw [ih, List.cons_append]
      · cases hxs : splitChars p xs with
        | nil => exact absurd hxs (splitChars_ne_nil xs)
        | cons part parts => rw [ih, hxs, List.cons_append, List.cons_append]

theorem not_mem_of_mem_splitChars {cs part : List Char} (h : part ∈ splitChars p cs) :
    ∀ c ∈ part, p c = false := by
  induction cs generalizing part with
  | nil =>
      obtain rfl := List.mem_singleton.mp h
      simp
  | cons c cs ih =>
      unfold splitChars at h
      split at h
      · rcases List.mem_cons.mp h with rfl | h
        · simp
        · exact ih h
      · next hc =>
          have hc : p c = false := by simpa using hc
          split at h
          · next hnil => exact absurd hnil (splitChars_ne_nil cs)
          · next first rest hsplit =>
              rw [hsplit] at ih
              rcases List.mem_cons.mp h with rfl | h
              · exact List.forall_mem_cons.mpr ⟨hc, ih List.mem_cons_self⟩
              · exact ih (List.mem_cons_of_mem _ h)

variable {sep : Char}

/-- A separator stands before every part but the first one. -/
theorem exists_splitChars (sep : Char) (cs : List Char) : ∃ part parts,
    splitChars (· == sep) cs = part :: parts ∧ cs = part ++ parts.flatMap (sep :: ·) := by
  induction cs with
  | nil => exact ⟨[], [], rfl, rfl⟩
  | cons c cs ih =>
      obtain ⟨part, parts, hparts, hcs⟩ := ih
      by_cases hc : c = sep
      · subst hc
        refine ⟨[], part :: parts, by simp [splitChars, hparts], ?_⟩
        rw [List.nil_append, List.flatMap_cons, List.cons_append, ← hcs]
      · refine ⟨c :: part, parts, by simp [splitChars, hparts, hc], ?_⟩
        rw [List.cons_append, ← hcs]

theorem mem_of_mem_splitChars {cs part : List Char} {c : Char} (h : part ∈ splitChars (· == sep) cs)
    (hc : c ∈ part) : c ∈ cs := by
  obtain ⟨first, rest, hparts, hcs⟩ := exists_splitChars sep cs
  rw [hcs]
  rw [hparts] at h
  rcases List.mem_cons.mp h with rfl | h
  · exact List.mem_append_left _ hc
  · exact List.mem_append_right _ (List.mem_flatMap.mpr ⟨part, h, List.mem_cons_of_mem _ hc⟩)

theorem not_mem_of_mem_split {s part : String} (h : part ∈ split sep s) : sep ∉ part.toList := by
  obtain ⟨chars, hchars, rfl⟩ := List.mem_map.mp h
  rw [String.toList_ofList]
  intro hmem
  simpa using not_mem_of_mem_splitChars hchars sep hmem

theorem split_of_not_mem {s : String} (h : sep ∉ s.toList) : split sep s = [s] := by
  have hchars : ∀ c ∈ s.toList, (c == sep) = false := fun c hc =>
    beq_eq_false_iff_ne.mpr fun hsame => h (hsame ▸ hc)
  rw [split, splitChars_of_not_mem hchars, List.map_singleton, String.ofList_toList]

theorem split_append (s t : String) :
    split sep (s ++ String.singleton sep ++ t) = split sep s ++ split sep t := by
  have hchars : (s ++ String.singleton sep ++ t).toList = s.toList ++ sep :: t.toList := by simp
  rw [split, hchars, splitChars_append (p := (· == sep)) (beq_self_eq_true sep), List.map_append, split, split]

theorem split_join {parts : List String} (hne : parts ≠ []) (h : ∀ part ∈ parts, sep ∉ part.toList) :
    split sep (join (String.singleton sep) parts) = parts := by
  induction parts with
  | nil => exact absurd rfl hne
  | cons part parts ih =>
      obtain ⟨hpart, hparts⟩ := List.forall_mem_cons.mp h
      cases parts with
      | nil => exact split_of_not_mem hpart
      | cons next parts =>
          rw [join, split_append, split_of_not_mem hpart, ih (by simp) hparts]
          · rfl
          · simp

/-- Parts without the separator are told from the text they make up. -/
theorem join_inj {parts others : List String} (hparts : parts ≠ []) (hothers : others ≠ [])
    (h : ∀ part ∈ parts, sep ∉ part.toList) (h' : ∀ part ∈ others, sep ∉ part.toList) :
    join (String.singleton sep) parts = join (String.singleton sep) others ↔ parts = others := by
  constructor
  · intro hsame
    rw [← split_join hparts h, hsame, split_join hothers h']
  · exact congrArg _

theorem join_cons {part : String} {parts : List String} (h : parts ≠ []) (glue : String) :
    join glue (part :: parts) = part ++ glue ++ join glue parts := by
  cases parts with
  | nil => exact absurd rfl h
  | cons next parts => rfl

theorem join_append_cons (glue start part : String) (parts : List String) :
    join glue ((start ++ part) :: parts) = start ++ join glue (part :: parts) := by
  cases parts with
  | nil => rfl
  | cons next parts => simp [join, String.append_assoc]

theorem join_cons_join (glue start part : String) (parts : List String) :
    join glue ((start ++ glue ++ part) :: parts) = join glue (start :: part :: parts) :=
  join_append_cons glue (start ++ glue) part parts

theorem join_concat {parts : List String} (h : parts ≠ []) (glue part : String) :
    join glue (parts ++ [part]) = join glue parts ++ glue ++ part := by
  induction parts with
  | nil => exact absurd rfl h
  | cons first parts ih =>
      by_cases hparts : parts = []
      · subst hparts
        rfl
      · rw [List.cons_append, join_cons (by simp), join_cons hparts, ih hparts]
        simp only [String.append_assoc]

/-- The separator stands before every part but the first one. -/
theorem toList_join_cons (glue part : String) (parts : List String) : (join glue (part :: parts)).toList =
    part.toList ++ parts.flatMap fun part => glue.toList ++ part.toList := by
  induction parts generalizing part with
  | nil => simp [join]
  | cons next parts ih =>
      rw [join_cons (List.cons_ne_nil _ _), String.toList_append, String.toList_append, ih, List.flatMap_cons,
        List.append_assoc, List.append_assoc]

/-- Joined with nothing between them, parts follow one another. -/
theorem toList_join_empty (parts : List String) : (join "" parts).toList = parts.flatMap String.toList := by
  cases parts with
  | nil => rfl
  | cons part parts => exact toList_join_cons "" part parts

theorem join_empty_append (parts more : List String) :
    join "" (parts ++ more) = join "" parts ++ join "" more := by
  rw [← String.toList_inj, String.toList_append]
  simp only [toList_join_empty, List.flatMap_append]

/-- The parts of a text, joined, are the text. -/
theorem join_split (s : String) : join (String.singleton sep) (split sep s) = s := by
  obtain ⟨part, parts, hsplit, hchars⟩ := exists_splitChars sep s.toList
  rw [split, hsplit, List.map_cons, ← String.toList_inj, toList_join_cons, hchars]
  simp [List.flatMap_map]

/-! ## Ends of lists -/

theorem dropEndWhile_concat {α : Type} {q : α → Bool} {a : α} (h : q a = false) (as : List α) :
    dropEndWhile q (as ++ [a]) = as ++ [a] := by
  induction as with
  | nil => simp [dropEndWhile, h]
  | cons b as ih =>
      rw [List.cons_append, dropEndWhile, ih]
      cases as <;> rfl

/-- What is last is not dropped. -/
theorem not_of_getLast?_dropEndWhile {α : Type} {q : α → Bool} {a : α} {as : List α}
    (h : (dropEndWhile q as).getLast? = some a) : q a = false := by
  induction as with
  | nil => cases h
  | cons b as ih =>
      unfold dropEndWhile at h
      split at h
      · split at h
        · cases h
        · next hb =>
            obtain rfl := Option.some.inj h
            exact Bool.eq_false_iff.mpr hb
      · next kept hkept =>
          obtain ⟨c, cs, hcs⟩ := List.exists_cons_of_ne_nil hkept
          rw [hcs, List.getLast?_cons_cons, ← hcs] at h
          exact ih h

/-- What is dropped at the end of a list satisfies the condition. -/
theorem exists_dropEndWhile {α : Type} (q : α → Bool) (as : List α) :
    ∃ dropped, as = dropEndWhile q as ++ dropped ∧ ∀ a ∈ dropped, q a = true := by
  induction as with
  | nil => exact ⟨[], rfl, List.forall_mem_nil _⟩
  | cons a as ih =>
      obtain ⟨dropped, hdropped, hall⟩ := ih
      unfold dropEndWhile
      split
      · next hnone =>
          rw [hnone, List.nil_append] at hdropped
          rw [hdropped]
          split
          · next ha => exact ⟨a :: dropped, rfl, List.forall_mem_cons.mpr ⟨ha, hall⟩⟩
          · exact ⟨dropped, rfl, hall⟩
      · refine ⟨dropped, ?_, hall⟩
        rw [List.cons_append, ← hdropped]

/-! ## Trimming and cutting -/

/-- What is trimmed off is white space. -/
theorem exists_trimChars (cs : List Char) : ∃ front back, cs = front ++ trimChars cs ++ back ∧
    (∀ c ∈ front, isBlank c = true) ∧ ∀ c ∈ back, isBlank c = true := by
  obtain ⟨back, hback, hblank⟩ := exists_dropEndWhile isBlank (cs.dropWhile isBlank)
  refine ⟨cs.takeWhile isBlank, back, ?_, fun c hc => List.mem_takeWhile_imp hc, hblank⟩
  rw [List.append_assoc]
  exact (List.takeWhile_append_dropWhile).symm.trans (congrArg _ hback)

/-- What stands before a mark and behind it are the text again, with the mark between them. -/
theorem toList_of_cut? {mark : Char} {s first rest : String} (h : cut? mark s = some (first, rest)) :
    s.toList = first.toList ++ mark :: rest.toList := by
  unfold cut? at h
  split at h
  · cases h
  · next c tail hdrop =>
      obtain ⟨rfl, rfl⟩ := Prod.mk.inj (Option.some.inj h)
      have hne : s.toList.dropWhile (· != mark) ≠ [] := by simp [hdrop]
      have hc : c = mark := by simpa [hdrop] using List.head_dropWhile_not _ hne
      have hsplit := List.takeWhile_append_dropWhile (p := (· != mark)) (l := s.toList)
      rw [hdrop, hc] at hsplit
      rw [String.toList_ofList, String.toList_ofList, hsplit]

theorem not_mem_of_cut? {mark : Char} {s : String} (h : cut? mark s = none) : mark ∉ s.toList := by
  unfold cut? at h
  split at h
  · next hnone => simpa using List.dropWhile_eq_nil_iff.mp hnone mark
  · cases h

theorem dropEnd?_append (s ending : String) : dropEnd? ending (s ++ ending) = some s := by
  have hending : ending.toList.isSuffixOf (s ++ ending).toList = true := by
    rw [List.isSuffixOf_iff_suffix, String.toList_append]
    exact List.suffix_append _ _
  rw [dropEnd?, if_pos hending, String.toList_append, List.length_append, Nat.add_sub_cancel,
    List.take_left, String.ofList_toList]

end RegionGateway.Text
