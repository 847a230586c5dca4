import RegionGateway.Proofs.Text.CleanLines

/-!
# How lines begin

Names and free text are put into files that are read line by line. A text without line breaks cannot begin a line
of its own (`OneLine`). A reader that looks at the first character of every line tells where a line begins like
an import or a public declaration (`scan`, `Passes`); what it is told of are the `headings` of a text. `Stands` says
that a part of a text begins at the start of a line, `block` is the text of given lines.
-/

namespace RegionGateway.Text

/-! ## Texts without line breaks -/

/-- A text without line feeds and carriage returns. -/
def OneLine (s : String) : Prop := ∀ c ∈ s.toList, c ≠ '\n' ∧ c ≠ '\r'

instance : DecidablePred OneLine := fun s => List.decidableBAll _ s.toList

@[simp] theorem oneLine_append {s t : String} : OneLine (s ++ t) ↔ OneLine s ∧ OneLine t := by
  unfold OneLine
  rw [String.toList_append]
  exact List.forall_mem_append

theorem OneLine.append {s t : String} (hs : OneLine s) (ht : OneLine t) : OneLine (s ++ t) :=
  oneLine_append.mpr ⟨hs, ht⟩

/-- The characters of joined texts are those of the texts and of what stands between them. -/
theorem forall_toList_join {p : Char → Prop} {glue : String} (hglue : ∀ c ∈ glue.toList, p c) {parts : List String}
    (h : ∀ part ∈ parts, ∀ c ∈ part.toList, p c) : ∀ c ∈ (join glue parts).toList, p c := by
  cases parts with
  | nil => exact List.forall_mem_nil _
  | cons part parts =>
      obtain ⟨hpart, hparts⟩ := List.forall_mem_cons.mp h
      rw [toList_join_cons]
      refine List.forall_mem_append.mpr ⟨hpart, List.forall_mem_flatMap.mpr fun other hother => ?_⟩
      exact List.forall_mem_append.mpr ⟨hglue, hparts other hother⟩

theorem oneLine_join {glue : String} (hglue : OneLine glue) {parts : List String}
    (h : ∀ part ∈ parts, OneLine part) : OneLine (join glue parts) :=
  forall_toList_join hglue h

theorem lines_line {line : String} (h : OneLine line) : lines (line ++ "\n") = [line.toList] := by
  have htext : line ++ "\n" = String.ofList (joinLines [line.toList]) := by
    rw [← String.toList_inj, String.toList_ofList, String.toList_append, joinLines, List.flatMap_singleton]
    rfl
  rw [htext, lines_joinLines]
  refine List.forall_mem_singleton.mpr ⟨fun hmem => (h _ hmem).1 rfl, if_neg fun hlast => ?_⟩
  exact (h _ (List.mem_of_getLast? hlast)).2 rfl

/-- None of the texts has a line break. -/
def AllOneLine (texts : List String) : Prop := ∀ text ∈ texts, OneLine text

@[simp] theorem allOneLine_nil : AllOneLine [] := List.forall_mem_nil _

@[simp] theorem allOneLine_cons {text : String} {texts : List String} :
    AllOneLine (text :: texts) ↔ OneLine text ∧ AllOneLine texts :=
  List.forall_mem_cons

@[simp] theorem allOneLine_append {texts more : List String} :
    AllOneLine (texts ++ more) ↔ AllOneLine texts ∧ AllOneLine more :=
  List.forall_mem_append

theorem allOneLine_flatMap {α : Type} {f : α → List String} {items : List α} :
    AllOneLine (items.flatMap f) ↔ ∀ item ∈ items, AllOneLine (f item) :=
  List.forall_mem_flatMap

/-! ## Places in a text -/

theorem endsLine_append {s t : String} (ht : t.toList.getLast? = some '\n') : EndsLine (s ++ t).toList := by
  intro c hc
  rw [String.toList_append, List.getLast?_append, ht, Option.some_or] at hc
  exact (Option.some.inj hc).symm

theorem endsLine_join {parts : List String} (h : ∀ part ∈ parts, EndsLine part.toList) :
    EndsLine (join "" parts).toList := by
  rw [toList_join_empty]
  induction parts with
  | nil => exact fun _ hnone => nomatch hnone
  | cons part parts ih =>
      obtain ⟨hpart, hparts⟩ := List.forall_mem_cons.mp h
      exact hpart.append (ih hparts)

theorem lines_join {parts : List String} (h : ∀ part ∈ parts, EndsLine part.toList) :
    lines (join "" parts) = parts.flatMap lines := by
  induction parts with
  | nil => rfl
  | cons part parts ih =>
      obtain ⟨hpart, hparts⟩ := List.forall_mem_cons.mp h
      rw [← List.singleton_append, join_empty_append]
      exact (lines_append hpart).trans (congrArg _ (ih hparts))

/-- Lines one below the other. -/
def block (lines : List String) : String := join "" (lines.map (· ++ "\n"))

theorem block_nil : block [] = "" := rfl

theorem block_cons (line : String) (lines : List String) : block (line :: lines) = line ++ "\n" ++ block lines := by
  rw [block, List.map_cons, ← List.singleton_append, join_empty_append]
  rfl

theorem block_append (lines more : List String) : block (lines ++ more) = block lines ++ block more := by
  rw [block, List.map_append, join_empty_append]
  rfl

theorem block_flatMap {α : Type} (f : α → List String) (items : List α) :
    block (items.flatMap f) = join "" (items.map fun item => block (f item)) := by
  induction items with
  | nil => rfl
  | cons item items ih =>
      rw [List.flatMap_cons, block_append, ih, List.map_cons, ← List.singleton_append, join_empty_append]
      rfl

theorem endsLine_block (ls : List String) : EndsLine (block ls).toList :=
  endsLine_join (List.forall_mem_map.mpr fun _ _ => endsLine_append (by decide))

/-- Texts without line breaks are the lines of their block. -/
theorem lines_block {ls : List String} (h : ∀ line ∈ ls, OneLine line) : lines (block ls) = ls.map String.toList := by
  have hends : ∀ text ∈ ls.map (· ++ "\n"), EndsLine text.toList :=
    List.forall_mem_map.mpr fun _ _ => endsLine_append (by decide)
  rw [block, lines_join hends, List.flatMap_map, List.map_eq_flatMap]
  exact List.flatMap_congr fun line hline => lines_line (h line hline)

theorem endsLine_empty : EndsLine "".toList := fun _ hnone => by simp at hnone

/-- A part of a text that begins at the start of a line. -/
def Stands (part whole : String) : Prop := ∃ before after, EndsLine before.toList ∧ whole = before ++ part ++ after

theorem Stands.refl (s : String) : Stands s s :=
  ⟨"", "", endsLine_empty, by rw [String.empty_append, String.append_empty]⟩

theorem Stands.trans {part inner whole : String} (h : Stands part inner) (h' : Stands inner whole) :
    Stands part whole := by
  obtain ⟨before, after, hbefore, rfl⟩ := h
  obtain ⟨start, stop, hstart, rfl⟩ := h'
  refine ⟨start ++ before, after ++ stop, ?_, by simp only [String.append_assoc]⟩
  rw [String.toList_append]
  exact hstart.append hbefore

theorem Stands.below {part whole before : String} (hbefore : EndsLine before.toList) (h : Stands part whole) :
    Stands part (before ++ whole) :=
  h.trans ⟨before, "", hbefore, by rw [String.append_empty]⟩

theorem Stands.above {part whole : String} (h : Stands part whole) (after : String) : Stands part (whole ++ after) :=
  h.trans ⟨"", after, endsLine_empty, by rw [String.empty_append]⟩

theorem stands_join {parts : List String} (h : ∀ part ∈ parts, EndsLine part.toList) {part : String}
    (hpart : part ∈ parts) : Stands part (join "" parts) := by
  obtain ⟨before, after, rfl⟩ := List.append_of_mem hpart
  have hbefore : EndsLine (join "" before).toList := endsLine_join fun other hother => h other (by simp [hother])
  refine ⟨join "" before, join "" after, hbefore, ?_⟩
  rw [join_empty_append, ← List.singleton_append, join_empty_append, String.append_assoc]
  rfl

theorem stands_block (front part back : List String) : Stands (block part) (block (front ++ part ++ back)) :=
  ⟨block front, block back, endsLine_block front, by rw [block_append, block_append]⟩

/-- The lines of a part are among those of the whole, one after the other. -/
theorem Stands.exists_lines {part whole : String} (h : Stands part whole) (hpart : EndsLine part.toList) :
    ∃ before after, lines whole = before ++ lines part ++ after := by
  obtain ⟨before, after, hbefore, rfl⟩ := h
  refine ⟨lines before, lines after, ?_⟩
  rw [String.append_assoc, lines_append hbefore, lines_append hpart, List.append_assoc]

/-! ## Headings -/

/-- Whether a character begins the line of an import or of a public declaration. -/
def isMark (c : Char) : Bool := c == 'u' || c == 'p'

/-- Whether a line begins like an import or a public declaration. -/
def isHeading (line : List Char) : Bool := line.head?.any isMark

theorem isHeading_append {s t : String} (h : isHeading s.toList = true) : isHeading (s ++ t).toList = true := by
  rw [String.toList_append]
  cases hchars : s.toList with
  | nil => rw [hchars] at h; cases h
  | cons c cs => rw [hchars] at h; exact h

/-- The lines that begin like imports and public declarations. -/
def headings (s : String) : List (List Char) := (lines s).filter isHeading

/-- The lines of a text that begin with another text. -/
def linesStarting (start s : String) : List (List Char) := (lines s).filter (start.toList.isPrefixOf ·)

/-- A text does not begin with another if it begins differently. -/
theorem isPrefixOf_append {start s : String} (h : ¬start.toList <+: s.toList ∧ ¬s.toList <+: start.toList)
    (rest : String) : start.toList.isPrefixOf (s ++ rest).toList = false := by
  refine Bool.eq_false_iff.mpr fun hprefix => ?_
  rw [List.isPrefixOf_iff_prefix, String.toList_append] at hprefix
  rcases List.prefix_or_prefix_of_prefix hprefix (List.prefix_append _ _) with hstart | hs
  · exact h.1 hstart
  · exact h.2 hs

/-- Lines that begin like imports or public declarations are among the headings. -/
theorem linesStarting_eq {start : String} (h : isHeading start.toList = true) (s : String) :
    linesStarting start s = (headings s).filter (start.toList.isPrefixOf ·) := by
  rw [linesStarting, headings, List.filter_filter]
  refine List.filter_congr fun line _ => ?_
  cases hprefix : start.toList.isPrefixOf line with
  | false => rfl
  | true =>
      obtain ⟨rest, rfl⟩ := List.isPrefixOf_iff_prefix.mp hprefix
      rw [Bool.true_and]
      cases hchars : start.toList with
      | nil => rw [hchars] at h; cases h
      | cons c cs => rw [hchars] at h; exact h.symm

theorem count_linesStarting {start s : String} {line : List Char} (h : start.toList.isPrefixOf line = true) :
    (linesStarting start s).count line = (lines s).count line :=
  List.count_filter h

/-- Reads characters at the start of a line or inside one, and tells whether a line starts behind them; stops where
a line begins like an import or a public declaration. -/
def scan : Bool → List Char → Option Bool
  | start, [] => some start
  | start, c :: cs => if start && isMark c then none else scan (c == '\n') cs

/-- A text leads from a place to another, both at the start of a line or inside one, and has no heading. -/
def Passes (start : Bool) (s : String) (stop : Bool) : Prop := scan start s.toList = some stop

instance (start : Bool) (s : String) (stop : Bool) : Decidable (Passes start s stop) :=
  inferInstanceAs (Decidable (scan start s.toList = some stop))

theorem scan_append (start : Bool) (cs ds : List Char) :
    scan start (cs ++ ds) = (scan start cs).bind fun between => scan between ds := by
  induction cs generalizing start with
  | nil => rfl
  | cons c cs ih =>
      rw [List.cons_append, scan, scan]
      split
      · rfl
      · exact ih _

section

variable {p q r : Bool} {s t : String}

theorem Passes.append (hs : Passes p s q) (ht : Passes q t r) : Passes p (s ++ t) r := by
  unfold Passes at hs ht ⊢
  rw [String.toList_append, scan_append, hs]
  exact ht

/-- Inside a line, a text without line breaks leads nowhere else. -/
theorem OneLine.passes (h : OneLine s) : Passes false s false := by
  have hscan : ∀ cs : List Char, (∀ c ∈ cs, c ≠ '\n' ∧ c ≠ '\r') → scan false cs = some false := by
    intro cs hcs
    induction cs with
    | nil => rfl
    | cons c cs ih =>
        obtain ⟨hc, hcs⟩ := List.forall_mem_cons.mp hcs
        have hinside : (c == '\n') = false := beq_eq_false_iff_ne.mpr hc.1
        rw [scan, hinside]
        exact ih hcs
  exact hscan _ h

theorem Passes.inside (hs : Passes p s false) (ht : OneLine t) : Passes p (s ++ t) false := hs.append ht.passes

theorem passes_join {glue : String} (hglue : Passes p glue p) {parts : List String}
    (h : ∀ part ∈ parts, Passes p part p) : Passes p (join glue parts) p := by
  induction parts with
  | nil => rfl
  | cons part parts ih =>
      obtain ⟨hpart, hparts⟩ := List.forall_mem_cons.mp h
      cases parts with
      | nil => exact hpart
      | cons next parts => exact (hpart.append hglue).append (ih hparts)

/-- A line starts behind a line feed only. -/
theorem Passes.endsLine (h : Passes p s true) : EndsLine s.toList := by
  have hscan : ∀ (cs : List Char) (start : Bool), scan start cs = some true → EndsLine cs := by
    intro cs
    induction cs with
    | nil => exact fun _ _ _ hnone => nomatch hnone
    | cons c cs ih =>
        intro start hscan
        rw [scan] at hscan
        split at hscan
        · cases hscan
        · cases cs with
          | nil =>
              intro d hd
              obtain rfl : c = d := by simpa using hd
              simpa [scan] using hscan
          | cons next cs =>
              intro d hd
              rw [List.getLast?_cons_cons] at hd
              exact ih _ hscan d hd
  exact hscan _ _ h

/-- A line does not begin differently without the carriage return at its end. -/
theorem isHeading_withoutReturn {line : List Char} (h : isHeading line = false) :
    isHeading (withoutReturn line) = false := by
  unfold withoutReturn
  split
  · rcases line with _ | ⟨c, _ | ⟨d, line⟩⟩
    · exact h
    · rfl
    · exact h
  · exact h

/-- Where no line begins like a heading, none of the parts between line feeds does, but for what stands before the
first of them inside a line. -/
theorem not_isHeading_of_scan {cs : List Char} (h : scan p cs = some q) :
    ∀ part ∈ if p then splitChars (· == '\n') cs else (splitChars (· == '\n') cs).tail, isHeading part = false := by
  induction cs generalizing p with
  | nil =>
      cases p with
      | true => exact List.forall_mem_singleton.mpr rfl
      | false => exact List.forall_mem_nil _
  | cons c cs ih =>
      rw [scan] at h
      split at h
      · cases h
      · next hmark =>
          have hrest := ih h
          by_cases hc : c = '\n'
          · -- a part ends here, and a line starts
            subst hc
            have hall : ∀ part ∈ [] :: splitChars (· == '\n') cs, isHeading part = false :=
              List.forall_mem_cons.mpr ⟨rfl, hrest⟩
            have hsplit : splitChars (· == '\n') ('\n' :: cs) = [] :: splitChars (· == '\n') cs := by
              rw [splitChars, if_pos (beq_self_eq_true _)]
            rw [hsplit]
            cases p with
            | true => exact hall
            | false => exact fun part hpart => hall part (List.mem_cons_of_mem _ hpart)
          · have hinside : (c == '\n') = false := beq_eq_false_iff_ne.mpr hc
            obtain ⟨part, parts, hparts, -⟩ := exists_splitChars '\n' cs
            have hsplit : splitChars (· == '\n') (c :: cs) = (c :: part) :: parts := by
              simp [splitChars, hinside, hparts]
            rw [hinside, hparts] at hrest
            rw [hsplit]
            -- the character joins the first part, which counts only at the start of a line
            cases p with
            | true => exact List.forall_mem_cons.mpr ⟨by simpa [isHeading] using hmark, hrest⟩
            | false => exact hrest

theorem Passes.headings (h : Passes true s q) : headings s = [] := by
  have hparts : ∀ part ∈ splitChars (· == '\n') s.toList, isHeading part = false := not_isHeading_of_scan h
  refine List.filter_eq_nil_iff.mpr fun line hline => Bool.not_eq_true _ ▸ ?_
  rcases List.mem_append.mp hline with hline | hline
  · obtain ⟨part, hpart, rfl⟩ := List.mem_map.mp hline
    exact isHeading_withoutReturn (hparts part (List.dropLast_subset _ hpart))
  · obtain ⟨hlast, -⟩ := Option.mem_filter_iff.mp (Option.mem_toList.mp hline)
    exact hparts line (List.mem_of_getLast? hlast)

theorem headings_append (h : EndsLine s.toList) : headings (s ++ t) = headings s ++ headings t := by
  rw [headings, lines_append h, List.filter_append]
  rfl

theorem headings_join {parts : List String} (h : ∀ part ∈ parts, EndsLine part.toList) :
    headings (join "" parts) = parts.flatMap headings := by
  rw [headings, lines_join h, List.filter_flatMap]
  rfl

/-- A heading between texts without headings is the only one. -/
theorem headings_between {before heading after : String} (hbefore : Passes true before true)
    (hline : OneLine heading) (hmark : isHeading heading.toList = true) (hafter : Passes true after q) :
    headings (before ++ heading ++ "\n" ++ after) = [heading.toList] := by
  have hends : EndsLine (heading ++ "\n").toList := endsLine_append (by decide)
  have hparts : before ++ heading ++ "\n" ++ after = before ++ ((heading ++ "\n") ++ after) := by
    simp only [String.append_assoc]
  rw [hparts, headings_append hbefore.endsLine, hbefore.headings, headings_append hends, hafter.headings, headings,
    lines_line hline, List.nil_append, List.append_nil, List.filter_cons_of_pos hmark, List.filter_nil]

end

end RegionGateway.Text
