import Mathlib.Data.List.DropRight
import Mathlib.Data.List.Forall2
import RegionGateway.Proofs.Text.Parts

/-!
# Clean text

A line ends in a line feed, with or without a carriage return before it; the last line may do without
(`lines`). Cleaning takes the white space off the end of every line and drops the blank lines at the end
of the text. The lines of a clean text are what is left of the lines it was made of (`lines_clean`), so
that a clean text is clean already, and `Cleans` says of one text only that it is another cleaned
(`clean_normal_form`).
-/

namespace RegionGateway.Text

/-! ## Ends of lists -/

section

variable {α : Type} {p : α → Bool}

theorem dropEndWhile_concat_of {a : α} (h : p a = true) (as : List α) :
    dropEndWhile p (as ++ [a]) = dropEndWhile p as := by
  induction as with
  | nil => simp [dropEndWhile, h]
  | cons b as ih => rw [List.cons_append, dropEndWhile, ih, dropEndWhile]

theorem dropEndWhile_eq_rdropWhile (p : α → Bool) (as : List α) : dropEndWhile p as = as.rdropWhile p := by
  induction as using List.reverseRecOn with
  | nil => rfl
  | append_singleton as a ih =>
      cases ha : p a with
      | true => rw [dropEndWhile_concat_of ha, List.rdropWhile_concat_pos _ _ _ ha, ih]
      | false => rw [dropEndWhile_concat ha, List.rdropWhile_concat_neg _ _ _ (by simp [ha])]

theorem dropEndWhile_append {dropped : List α} (h : ∀ a ∈ dropped, p a = true) (as : List α) :
    dropEndWhile p (as ++ dropped) = dropEndWhile p as := by
  induction dropped using List.reverseRecOn with
  | nil => rw [List.append_nil]
  | append_singleton dropped a ih =>
      obtain ⟨hdropped, ha⟩ := List.forall_mem_append.mp h
      rw [← List.append_assoc, dropEndWhile_concat_of (ha a List.mem_cons_self), ih hdropped]

theorem dropEndWhile_of_getLast? {as : List α} (h : ∀ a ∈ as.getLast?, p a = false) :
    dropEndWhile p as = as := by
  rw [dropEndWhile_eq_rdropWhile, List.rdropWhile_eq_self_iff]
  intro hne
  exact Bool.not_eq_true _ ▸ h _ (List.getLast?_eq_some_getLast hne)

theorem dropEndWhile_idempotent (p : α → Bool) (as : List α) :
    dropEndWhile p (dropEndWhile p as) = dropEndWhile p as :=
  dropEndWhile_of_getLast? fun _ => not_of_getLast?_dropEndWhile

theorem dropEndWhile_eq_nil_iff {as : List α} : dropEndWhile p as = [] ↔ ∀ a ∈ as, p a = true := by
  rw [dropEndWhile_eq_rdropWhile, List.rdropWhile_eq_nil_iff]

end

/-! ## Lines -/

/-- A line without the carriage return that belongs to its end. -/
def withoutReturn (line : List Char) : List Char :=
  if line.getLast? = some '\r' then line.dropLast else line

/-- The lines of a text. -/
def lines (s : String) : List (List Char) :=
  let parts := splitChars (· == '\n') s.toList
  parts.dropLast.map withoutReturn ++ (parts.getLast?.filter (· ≠ [])).toList

/-- A line of white space only. -/
def IsBlankLine (line : List Char) : Prop := ∀ c ∈ line, isBlank c = true

/-- A line that does not end in white space. -/
def IsTrimmed (line : List Char) : Prop := ∀ c ∈ line.getLast?, isBlank c = false

theorem isTrimmed_trimEnd (line : List Char) : IsTrimmed (trimEnd line) :=
  fun _ => not_of_getLast?_dropEndWhile

theorem IsTrimmed.trimEnd_eq {line : List Char} (h : IsTrimmed line) : trimEnd line = line :=
  dropEndWhile_of_getLast? h

theorem trimEnd_eq_nil_iff {line : List Char} : trimEnd line = [] ↔ IsBlankLine line :=
  dropEndWhile_eq_nil_iff

theorem IsTrimmed.withoutReturn_eq {line : List Char} (h : IsTrimmed line) : withoutReturn line = line := by
  refine if_neg fun hlast => ?_
  exact absurd (h _ hlast) (by decide)

theorem trimEnd_withoutReturn (line : List Char) : trimEnd (withoutReturn line) = trimEnd line := by
  unfold withoutReturn
  split
  · next hlast =>
      have hline := List.dropLast_append_getLast? _ hlast
      have hblank : ∀ c ∈ ['\r'], isBlank c = true := List.forall_mem_singleton.mpr (by decide)
      exact (dropEndWhile_append hblank _).symm.trans (congrArg _ hline)
  · rfl

theorem newline_not_mem_trimEnd {line : List Char} (h : '\n' ∉ line) : '\n' ∉ trimEnd line := by
  obtain ⟨dropped, hline, -⟩ := exists_dropEndWhile isBlank line
  intro hmem
  exact h (hline ▸ List.mem_append_left dropped hmem)

/-- The text that lines make up, each ended by a line feed. -/
def joinLines (lines : List (List Char)) : List Char := lines.flatMap (· ++ ['\n'])

theorem splitChars_joinLines {ls : List (List Char)} (h : ∀ line ∈ ls, '\n' ∉ line) :
    splitChars (· == '\n') (joinLines ls) = ls ++ [[]] := by
  induction ls with
  | nil => rfl
  | cons line ls ih =>
      obtain ⟨hline, hls⟩ := List.forall_mem_cons.mp h
      have hchars : ∀ c ∈ line, (c == '\n') = false := fun c hc =>
        beq_eq_false_iff_ne.mpr fun hsame => hline (hsame ▸ hc)
      have hsplit : joinLines (line :: ls) = line ++ '\n' :: joinLines ls := by simp [joinLines]
      rw [hsplit, splitChars_append (p := (· == '\n')) rfl, splitChars_of_not_mem hchars, ih hls]
      rfl

/-- A text of which nothing but lines can be told. -/
theorem lines_of_splitChars {s : String} {ls : List (List Char)}
    (hsplit : splitChars (· == '\n') s.toList = ls ++ [[]]) (hreturn : ∀ line ∈ ls, withoutReturn line = line) :
    lines s = ls := by
  have hkept : ls.map withoutReturn = ls := (List.map_congr_left hreturn).trans (List.map_id ls)
  unfold lines
  simp [hsplit, hkept]

/-- Lines that are ended by line feeds are the lines of the text that they make up. -/
theorem lines_joinLines {ls : List (List Char)} (h : ∀ line ∈ ls, '\n' ∉ line ∧ withoutReturn line = line) :
    lines (String.ofList (joinLines ls)) = ls := by
  refine lines_of_splitChars ?_ fun line hline => (h line hline).2
  rw [String.toList_ofList, splitChars_joinLines fun line hline => (h line hline).1]

/-- Whatever follows begins a line. -/
def EndsLine (cs : List Char) : Prop := ∀ c ∈ cs.getLast?, c = '\n'

theorem EndsLine.append {cs ds : List Char} (hcs : EndsLine cs) (hds : EndsLine ds) : EndsLine (cs ++ ds) := by
  intro c hc
  rw [List.getLast?_append] at hc
  rcases Option.or_eq_some_iff.mp hc with hlast | ⟨-, hlast⟩
  · exact hds c hlast
  · exact hcs c hlast

theorem EndsLine.cases {cs : List Char} (h : EndsLine cs) : cs = [] ∨ ∃ front, cs = front ++ ['\n'] := by
  cases cs using List.reverseRecOn with
  | nil => exact .inl rfl
  | append_singleton front c => exact .inr ⟨front, by rw [h c (by simp)]⟩

theorem endsLine_joinLines (ls : List (List Char)) : EndsLine (joinLines ls) := by
  induction ls with
  | nil => exact fun _ hnone => nomatch hnone
  | cons line ls ih =>
      have hline : EndsLine (line ++ ['\n']) := by simp [EndsLine]
      exact hline.append ih

/-- The lines of a text that follows a line's end are those after it. -/
theorem lines_append {s t : String} (h : EndsLine s.toList) : lines (s ++ t) = lines s ++ lines t := by
  have hnewline : ('\n' == '\n') = true := rfl
  rcases h.cases with hempty | ⟨front, hfront⟩
  · obtain rfl := String.toList_inj.mp (hempty.trans String.toList_empty.symm)
    rw [String.empty_append]
    rfl
  · have hs : splitChars (· == '\n') s.toList = splitChars (· == '\n') front ++ [[]] := by
      rw [hfront]
      exact splitChars_append (p := (· == '\n')) hnewline front []
    have happend : splitChars (· == '\n') (s ++ t).toList =
        splitChars (· == '\n') front ++ splitChars (· == '\n') t.toList := by
      rw [String.toList_append, hfront, List.append_assoc]
      exact splitChars_append (p := (· == '\n')) hnewline front t.toList
    have hne : splitChars (· == '\n') t.toList ≠ [] := splitChars_ne_nil _
    unfold lines
    simp only [hs, happend, List.dropLast_append_of_ne_nil hne, List.dropLast_concat, List.getLast?_concat,
      List.getLast?_append_of_ne_nil _ hne, List.map_append, List.append_assoc]
    rfl

/-- Nothing but a last part without characters is no line. -/
theorem exists_lines (s : String) : ∃ rest, (∀ part ∈ rest, part = []) ∧
    (splitChars (· == '\n') s.toList).map trimEnd = (lines s).map trimEnd ++ rest := by
  obtain ⟨last, hlast⟩ : ∃ last, (splitChars (· == '\n') s.toList).getLast? = some last :=
    Option.isSome_iff_exists.mp (List.getLast?_isSome.mpr (splitChars_ne_nil _))
  have hparts := List.dropLast_append_getLast? _ hlast
  have hlines : (lines s).map trimEnd =
      (splitChars (· == '\n') s.toList).dropLast.map trimEnd ++
        ((some last).filter (· ≠ [])).toList.map trimEnd := by
    unfold lines
    simp only [hlast, List.map_append, List.map_map]
    congr 2
    exact funext trimEnd_withoutReturn
  rw [hlines, ← hparts, List.map_append]
  by_cases hempty : last = []
  · exact ⟨[[]], by simp, by simp [hempty, trimEnd, dropEndWhile]⟩
  · exact ⟨[], by simp, by simp [Option.filter, hempty]⟩

/-! ## Cleaning -/

/-- What is left of the lines of a text when it is cleaned. -/
def cleanLines (s : String) : List (List Char) := dropEndWhile List.isEmpty ((lines s).map trimEnd)

theorem clean_eq (s : String) : clean s = String.ofList (joinLines (cleanLines s)) := by
  obtain ⟨rest, hrest, hparts⟩ := exists_lines s
  have hempty : ∀ part ∈ rest, part.isEmpty = true := fun part hpart => List.isEmpty_iff.mpr (hrest part hpart)
  rw [clean, hparts, dropEndWhile_append hempty]
  rfl

theorem newline_not_mem_of_mem_lines {s : String} {line : List Char} (h : line ∈ lines s) : '\n' ∉ line := by
  have hpart : ∃ part ∈ splitChars (· == '\n') s.toList, line ⊆ part := by
    rcases List.mem_append.mp h with h | h
    · obtain ⟨part, hpart, rfl⟩ := List.mem_map.mp h
      refine ⟨part, List.dropLast_subset _ hpart, ?_⟩
      unfold withoutReturn
      split
      · exact List.dropLast_subset part
      · exact List.Subset.refl part
    · obtain ⟨hlast, -⟩ := Option.filter_eq_some_iff.mp (Option.mem_toList.mp h)
      exact ⟨line, List.mem_of_getLast? hlast, List.Subset.refl line⟩
  obtain ⟨part, hpart, hsubset⟩ := hpart
  intro hmem
  simpa using not_mem_of_mem_splitChars hpart '\n' (hsubset hmem)

theorem of_mem_cleanLines {s : String} {line : List Char} (h : line ∈ cleanLines s) :
    '\n' ∉ line ∧ IsTrimmed line := by
  obtain ⟨dropped, hlines, -⟩ := exists_dropEndWhile List.isEmpty ((lines s).map trimEnd)
  have hmem : line ∈ (lines s).map trimEnd := hlines ▸ List.mem_append_left dropped h
  obtain ⟨source, hsource, rfl⟩ := List.mem_map.mp hmem
  exact ⟨newline_not_mem_trimEnd (newline_not_mem_of_mem_lines hsource), isTrimmed_trimEnd source⟩

/-- The lines of a clean text are what is left of the lines it was made of. -/
theorem lines_clean (s : String) : lines (clean s) = cleanLines s := by
  rw [clean_eq, lines_joinLines fun line hline => ?_]
  obtain ⟨hnewline, htrimmed⟩ := of_mem_cleanLines hline
  exact ⟨hnewline, htrimmed.withoutReturn_eq⟩

theorem clean_clean (s : String) : clean (clean s) = clean s := by
  have htrimmed : (cleanLines s).map trimEnd = cleanLines s :=
    (List.map_congr_left fun line hline => (of_mem_cleanLines hline).2.trimEnd_eq).trans (List.map_id _)
  rw [clean_eq (clean s), cleanLines, lines_clean, htrimmed, cleanLines, dropEndWhile_idempotent, clean_eq]
  rfl

/-! ## What a clean text is -/

/-- The second line is the first without some white space at its end. -/
def Shortened (line kept : List Char) : Prop := ∃ blanks, line = kept ++ blanks ∧ IsBlankLine blanks

/-- A text is another one cleaned. -/
structure Cleans (source text : String) : Prop where
  /-- It is empty exactly if there is nothing but white space on the lines of the other. -/
  empty_iff : text = "" ↔ ∀ line ∈ lines source, IsBlankLine line
  /-- Otherwise it ends in one line feed, and its last line is not blank. -/
  ended : text ≠ "" → ∃ front last, text.toList = front ++ last ++ ['\n'] ∧
    EndsLine front ∧ '\n' ∉ last ∧ ¬ IsBlankLine last
  /-- Nothing that stands before a line feed or at the end is white space. -/
  trimmed : ∀ part ∈ splitChars (· == '\n') text.toList, IsTrimmed part
  /-- Its lines are those of the other without white space at their ends; blank lines at the end are
  dropped. -/
  kept : ∃ front dropped, lines source = front ++ dropped ∧ List.Forall₂ Shortened front (lines text) ∧
    ∀ line ∈ dropped, IsBlankLine line

theorem shortened_trimEnd (line : List Char) : Shortened line (trimEnd line) := exists_dropEndWhile isBlank line

/-- A line is shortened to one trimmed line only. -/
theorem Shortened.eq_trimEnd {line kept : List Char} (h : Shortened line kept) (htrimmed : IsTrimmed kept) :
    kept = trimEnd line := by
  obtain ⟨blanks, rfl, hblanks⟩ := h
  exact htrimmed.trimEnd_eq.symm.trans (dropEndWhile_append hblanks kept).symm

theorem map_trimEnd_of_shortened {front kept : List (List Char)} (h : List.Forall₂ Shortened front kept)
    (htrimmed : ∀ line ∈ kept, IsTrimmed line) : kept = front.map trimEnd := by
  induction h with
  | nil => rfl
  | cons hfirst _ ih =>
      obtain ⟨hline, hlines⟩ := List.forall_mem_cons.mp htrimmed
      rw [List.map_cons, ← hfirst.eq_trimEnd hline, ← ih hlines]

theorem isEmpty_trimEnd_iff {line : List Char} : (trimEnd line).isEmpty = true ↔ IsBlankLine line :=
  List.isEmpty_iff.trans trimEnd_eq_nil_iff

theorem cleanLines_eq_nil_iff {s : String} : cleanLines s = [] ↔ ∀ line ∈ lines s, IsBlankLine line := by
  rw [cleanLines, dropEndWhile_eq_nil_iff, List.forall_mem_map]
  exact forall₂_congr fun _ _ => isEmpty_trimEnd_iff

theorem joinLines_eq_nil_iff {ls : List (List Char)} : joinLines ls = [] ↔ ls = [] := by
  cases ls <;> simp [joinLines]

theorem clean_eq_empty_iff {s : String} : clean s = "" ↔ ∀ line ∈ lines s, IsBlankLine line := by
  rw [clean_eq, ← cleanLines_eq_nil_iff, ← joinLines_eq_nil_iff]
  exact String.ofList_eq_empty_iff

/-- What stands before the last line feed is a text of lines. -/
theorem eq_joinLines_of_splitChars {cs last : List Char} {front : List (List Char)}
    (h : splitChars (· == '\n') cs = front ++ [last]) : cs = joinLines front ++ last := by
  obtain ⟨part, parts, hparts, hcs⟩ := exists_splitChars '\n' cs
  rw [hparts] at h
  rw [hcs]
  clear hcs hparts
  induction front generalizing part parts with
  | nil =>
      obtain ⟨rfl, rfl⟩ := List.cons.inj h
      simp [joinLines]
  | cons line front ih =>
      obtain ⟨rfl, rfl⟩ := List.cons.inj h
      obtain ⟨next, rest, hrest⟩ := List.exists_cons_of_ne_nil (List.concat_ne_nil last front)
      have htail := ih next rest hrest.symm
      simp [hrest, htail, joinLines]

theorem splitChars_concat_newline (cs : List Char) :
    splitChars (· == '\n') (cs ++ ['\n']) = splitChars (· == '\n') cs ++ [[]] :=
  splitChars_append (p := (· == '\n')) rfl cs []

/-- The last line of a text that begins anew before it. -/
theorem getLast?_splitChars {front last : List Char} (hfront : EndsLine front) (hlast : '\n' ∉ last) :
    (splitChars (· == '\n') (front ++ last)).getLast? = some last := by
  have hchars : ∀ c ∈ last, (c == '\n') = false := fun c hc =>
    beq_eq_false_iff_ne.mpr fun hsame => hlast (hsame ▸ hc)
  rcases hfront.cases with rfl | ⟨start, rfl⟩
  · rw [List.nil_append, splitChars_of_not_mem hchars]
    rfl
  · rw [List.append_assoc, List.singleton_append, splitChars_append (p := (· == '\n')) rfl,
      splitChars_of_not_mem hchars, List.getLast?_concat]

/-- What is said of a cleaned text leaves no choice. -/
theorem Cleans.eq_clean {source text : String} (h : Cleans source text) : text = clean source := by
  by_cases hempty : text = ""
  · rw [hempty, clean_eq_empty_iff.mpr (h.empty_iff.mp hempty)]
  obtain ⟨start, last, htext, hstart, hnewline, hlast⟩ := h.ended hempty
  -- the parts of the text are its lines, and an empty one after the last line feed
  generalize hlines : splitChars (· == '\n') (start ++ last) = ls
  have hsplit : splitChars (· == '\n') text.toList = ls ++ [[]] := by
    rw [htext, splitChars_concat_newline, hlines]
  have htrimmed : ∀ line ∈ ls, IsTrimmed line := fun line hline =>
    h.trimmed line (hsplit ▸ List.mem_append_left _ hline)
  have hlinesText : lines text = ls :=
    lines_of_splitChars hsplit fun line hline => (htrimmed line hline).withoutReturn_eq
  obtain ⟨front, dropped, hsource, hshortened, hdropped⟩ := h.kept
  rw [hlinesText] at hshortened
  have hclean : cleanLines source = ls := by
    have hblank : ∀ line ∈ dropped.map trimEnd, line.isEmpty = true := List.forall_mem_map.mpr
      fun line hline => isEmpty_trimEnd_iff.mpr (hdropped line hline)
    rw [cleanLines, hsource, List.map_append, ← map_trimEnd_of_shortened hshortened htrimmed,
      dropEndWhile_append hblank]
    refine dropEndWhile_of_getLast? fun line hline => ?_
    rw [← hlines, getLast?_splitChars hstart hnewline] at hline
    rw [← Option.some.inj hline]
    refine Bool.eq_false_iff.mpr fun hnil => hlast ?_
    rw [List.isEmpty_iff.mp hnil]
    exact List.forall_mem_nil _
  rw [clean_eq, hclean, ← String.toList_inj, eq_joinLines_of_splitChars hsplit, List.append_nil,
    String.toList_ofList]

theorem cleans_clean (s : String) : Cleans s (clean s) where
  empty_iff := clean_eq_empty_iff
  ended hne := by
    have hsome : cleanLines s ≠ [] := fun hnone => hne (clean_eq_empty_iff.mpr (cleanLines_eq_nil_iff.mp hnone))
    obtain ⟨last, hlast⟩ := Option.isSome_iff_exists.mp (List.getLast?_isSome.mpr hsome)
    have hsplit := List.dropLast_append_getLast? _ hlast
    obtain ⟨hnewline, htrimmed⟩ := of_mem_cleanLines (List.mem_of_getLast? hlast)
    refine ⟨joinLines (cleanLines s).dropLast, last, ?_, ?_, hnewline, fun hblank => ?_⟩
    · rw [clean_eq, String.toList_ofList, ← hsplit]
      simp [joinLines]
    · exact endsLine_joinLines _
    · have hempty := htrimmed.trimEnd_eq.symm.trans (trimEnd_eq_nil_iff.mpr hblank)
      rw [hempty] at hlast
      exact absurd (not_of_getLast?_dropEndWhile hlast) (by decide)
  trimmed part hpart := by
    rw [clean_eq, String.toList_ofList, splitChars_joinLines fun line hline => (of_mem_cleanLines hline).1] at hpart
    rcases List.mem_append.mp hpart with hline | hempty
    · exact (of_mem_cleanLines hline).2
    · rw [List.mem_singleton.mp hempty]
      exact fun _ hnone => nomatch hnone
  kept := by
    obtain ⟨dropped, hlines, hblank⟩ := exists_dropEndWhile List.isEmpty ((lines s).map trimEnd)
    obtain ⟨front, rest, hsplit, hfront, rfl⟩ := List.map_eq_append_iff.mp hlines
    refine ⟨front, rest, hsplit, ?_, fun line hline => ?_⟩
    · rw [lines_clean, cleanLines, ← hfront, List.forall₂_map_right_iff, List.forall₂_same]
      exact fun line _ => shortened_trimEnd line
    · exact isEmpty_trimEnd_iff.mp (hblank _ (List.mem_map_of_mem hline))

/-- **Cleaning gives a normal form.** The one text that another text cleaned can be is empty if there is
nothing but white space on the lines of the other, and ends in one line feed after a line that is not blank
if there is more; none of its lines ends in white space; its lines are those of the other, in order,
each without the white space at its end, with nothing dropped but blank lines at the end. Cleaning it again
changes nothing. -/
theorem clean_normal_form (s : String) :
    (∀ text, text = clean s ↔ Cleans s text) ∧ clean (clean s) = clean s := by
  refine ⟨fun text => ⟨?_, Cleans.eq_clean⟩, clean_clean s⟩
  rintro rfl
  exact cleans_clean s

/-- Carriage returns go with the line feeds behind them; blank lines before others stay. -/
example : clean "\n a \r\n\t\nb\u00A0\r\n \n" = "\n a\n\nb\n" := by decide +kernel

end RegionGateway.Text
