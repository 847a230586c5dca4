import Mathlib.Data.List.Nodup
import RegionGateway.Proofs.Rust.Imports
import RegionGateway.Proofs.Rust.Mentions

/-!
# The lines of imports

The lines of imports list what is recorded, and nothing twice (`nodup_uses_recordAll`). So a word that no path
has is found once in the lines if it is imported, and not at all otherwise (`count_words_text`).
-/

namespace RegionGateway.Rust

/-! ## Words, whatever follows them -/

/-- The words of a text. -/
def words (text : String) : List String := (mentions text).map (·.1)

/-- A text that separates words. -/
abbrev IsBreak : String → Prop := Checks fun chars => !chars.isEmpty && chars.all fun c => !isIdentChar c

section

variable {a b mark : String}

/-- What follows a word does not change it. -/
theorem words_across {c : Char} (hc : isIdentChar c = false) (current xs ys : List Char) :
    (mentionsAfter current (xs ++ c :: ys)).map (·.1) =
      (mentionsAfter current xs).map (·.1) ++ (mentionsAfter [] ys).map (·.1) := by
  have hword : ∀ (chars : List Char) (colons other : Bool),
      (wordOf chars colons).map (·.1) = (wordOf chars other).map (·.1) := by
    intro chars colons other
    unfold wordOf
    split <;> rfl
  induction xs generalizing current with
  | nil => simp [mentionsAfter, hc, hword current _ false]
  | cons x xs ih =>
      rw [List.cons_append, mentionsAfter, mentionsAfter]
      split
      · exact ih _
      · rw [List.map_append, List.map_append, ih, List.append_assoc]
        exact congrArg (· ++ _) (hword current _ _)

theorem words_break (h : IsBreak mark) : words (a ++ (mark ++ b)) = words a ++ words b := by
  obtain ⟨hsome, hmark⟩ := Bool.and_eq_true_iff.mp h
  have hskip : ∀ cs : List Char, (cs.all fun c => !isIdentChar c) = true → ∀ ys,
      (mentionsAfter [] (cs ++ ys)).map (·.1) = (mentionsAfter [] ys).map (·.1) := by
    intro cs hcs ys
    induction cs with
    | nil => rfl
    | cons c cs ih =>
        rw [List.all_cons, Bool.and_eq_true, Bool.not_eq_true'] at hcs
        exact (words_across hcs.1 [] [] (cs ++ ys)).trans (ih hcs.2)
  cases hchars : mark.toList with
  | nil => simp [hchars] at hsome
  | cons c cs =>
      rw [hchars, List.all_cons, Bool.and_eq_true, Bool.not_eq_true'] at hmark
      rw [words, mentions, String.toList_append, String.toList_append, hchars, List.cons_append,
        words_across hmark.1, hskip cs hmark.2]
      rfl

theorem words_close (h : IsBreak mark) : words (a ++ mark) = words a := by
  have hclosed := words_break (a := a) (b := "") h
  rwa [String.append_empty, show words "" = [] from rfl, List.append_nil] at hclosed

theorem words_word {word : String} (h : IsWord word) : words word = [word] := by
  rw [words, mentions_word h]
  rfl

/-- Words with marks between them. -/
theorem words_join (h : IsBreak mark) {parts : List String} (hparts : ∀ part ∈ parts, IsWord part) :
    words (Text.join mark parts) = parts := by
  induction parts with
  | nil => rfl
  | cons part parts ih =>
      obtain ⟨hpart, hrest⟩ := List.forall_mem_cons.mp hparts
      cases parts with
      | nil => exact words_word hpart
      | cons next parts =>
          rw [Text.join_cons (List.cons_ne_nil _ _), String.append_assoc, words_break h, ih hrest,
            words_word hpart]
          rfl

theorem words_lines {lines : List String} (h : ∀ line ∈ lines, EndsOpen line) :
    words (Text.join "" lines) = lines.flatMap words := by
  induction lines with
  | nil => rfl
  | cons line lines ih =>
      obtain ⟨hline, hrest⟩ := List.forall_mem_cons.mp h
      rw [join_empty_cons, words, mentions_append_right hline, List.map_append, ← words, ← words, ih hrest,
        List.flatMap_cons]

end

namespace Imports

/-! ## What is listed -/

/-- What is imported, in the order of the lines. -/
def uses (imports : Imports) : List Use := imports.entries.flatMap fun entry => entry.2.map (Use.mk entry.1)

theorem mem_uses_insertUse {use other : Use} {entries : List (String × List String)} :
    other ∈ uses ⟨insertUse use entries⟩ ↔ other = use ∨ other ∈ uses ⟨entries⟩ := by
  induction entries with
  | nil => simp [uses, insertUse]
  | cons first rest ih =>
      simp only [uses] at ih
      unfold insertUse
      split
      · next hsame =>
          obtain ⟨path, symbol⟩ := use
          obtain ⟨here, symbols⟩ := first
          obtain rfl : path = here := hsame
          simp only [uses, List.flatMap_cons, List.mem_append, List.mem_map, mem_insertSymbol]
          grind
      · split
        · simp [uses]
        · simp only [uses, List.flatMap_cons, List.mem_append, ih, or_left_comm]

/-- What is recorded is listed. -/
theorem mem_uses_recordAll {recorded : List Use} {use : Use} :
    use ∈ (empty.recordAll recorded).uses ↔ use ∈ recorded := by
  have hrecorded : ∀ imports : Imports, use ∈ (imports.recordAll recorded).uses ↔
      use ∈ recorded ∨ use ∈ imports.uses := by
    induction recorded with
    | nil => simp [recordAll]
    | cons first rest ih =>
        intro imports
        rw [recordAll, List.foldl_cons]
        refine (ih (imports.record first)).trans ?_
        rw [record, mem_uses_insertUse, List.mem_cons, or_assoc, or_left_comm]
  exact (hrecorded empty).trans (or_iff_left List.not_mem_nil)

/-- Every path of the lines is one that something is recorded from. -/
theorem exists_use {recorded : List Use} {entry : String × List String}
    (h : entry ∈ (empty.recordAll recorded).entries) : ∃ use ∈ recorded, entry.1 = use.path := by
  have hrecorded : ∀ imports : Imports, entry ∈ (imports.recordAll recorded).entries →
      (∃ use ∈ recorded, entry.1 = use.path) ∨ ∃ other ∈ imports.entries, entry.1 = other.1 := by
    clear h
    induction recorded with
    | nil => exact fun _ h => .inr ⟨entry, h, rfl⟩
    | cons first rest ih =>
        intro imports hentry
        rcases ih (imports.record first) hentry with ⟨use, huse, hpath⟩ | ⟨other, hother, hpath⟩
        · exact .inl ⟨use, List.mem_cons_of_mem _ huse, hpath⟩
        · rcases mem_insertUse hother with hfirst | ⟨older, holder, hsame⟩
          · exact .inl ⟨first, List.mem_cons_self, hpath.trans hfirst⟩
          · exact .inr ⟨older, holder, hpath.trans hsame⟩
  exact (hrecorded empty h).resolve_right fun ⟨_, hnone, _⟩ => List.not_mem_nil hnone

theorem ascending_insertSymbol {symbol : String} {symbols : List String} (h : symbols.Pairwise (· < ·)) :
    (insertSymbol symbol symbols).Pairwise (· < ·) := by
  induction symbols with
  | nil => exact List.pairwise_singleton _ _
  | cons first rest ih =>
      obtain ⟨hfirst, hrest⟩ := List.pairwise_cons.mp h
      unfold insertSymbol
      split
      · exact h
      · next hother =>
          split
          · next hbefore =>
              refine List.pairwise_cons.mpr ⟨fun other hmem => ?_, h⟩
              rcases List.mem_cons.mp hmem with rfl | hmem
              · exact hbefore
              · exact String.lt_trans hbefore (hfirst other hmem)
          · next hbehind =>
              refine List.pairwise_cons.mpr ⟨fun other hmem => ?_, ih hrest⟩
              rcases mem_insertSymbol.mp hmem with rfl | hmem
              · exact Decidable.byContradiction fun h => hother (String.le_antisymm h hbehind)
              · exact hfirst other hmem

/-- The symbols of every path are sorted, none twice. -/
def Sorted (entries : List (String × List String)) : Prop :=
  ∀ entry ∈ entries, entry.2.Pairwise (· < ·)

theorem sorted_insertUse {use : Use} {entries : List (String × List String)} (h : Sorted entries) :
    Sorted (insertUse use entries) := by
  have hnew : List.Pairwise (· < ·) [use.symbol] := List.pairwise_singleton _ _
  induction entries with
  | nil => exact List.forall_mem_singleton.mpr hnew
  | cons first rest ih =>
      obtain ⟨hfirst, hrest⟩ := List.forall_mem_cons.mp h
      unfold insertUse
      split
      · exact List.forall_mem_cons.mpr ⟨ascending_insertSymbol hfirst, hrest⟩
      · split
        · exact List.forall_mem_cons.mpr ⟨hnew, h⟩
        · exact List.forall_mem_cons.mpr ⟨hfirst, ih hrest⟩

/-- Nothing is listed twice. -/
theorem nodup_uses_recordAll (recorded : List Use) : (empty.recordAll recorded).uses.Nodup := by
  have hsorted : ∀ imports : Imports, Ascending imports.entries → Sorted imports.entries →
      Ascending (imports.recordAll recorded).entries ∧ Sorted (imports.recordAll recorded).entries := by
    induction recorded with
    | nil => exact fun _ hascending hsorted => ⟨hascending, hsorted⟩
    | cons use rest ih =>
        exact fun imports hascending hsorted =>
          ih (imports.record use) (ascending_insertUse hascending) (sorted_insertUse hsorted)
  obtain ⟨hascending, hsorted⟩ := hsorted empty List.Pairwise.nil (List.forall_mem_nil _)
  refine List.nodup_flatMap.mpr ⟨fun entry hentry => ?_, hascending.imp ?_⟩
  · exact List.Nodup.map (fun _ _ h => (Use.mk.inj h).2) ((hsorted entry hentry).imp String.ne_of_lt)
  · intro first second hlt use hfirst hsecond
    obtain ⟨_, -, rfl⟩ := List.mem_map.mp hfirst
    obtain ⟨_, -, hpath⟩ := List.mem_map.mp hsecond
    exact String.ne_of_lt hlt (Use.mk.inj hpath).1.symm

/-! ## The lines -/

theorem words_line (path : String) {symbols : List String} (h : ∀ symbol ∈ symbols, IsWord symbol) :
    words (line path symbols) = "use" :: (words path ++ symbols) := by
  have hopen : EndsOpen "use " := checks_of rfl rfl
  have huse : ∀ text, words ("use " ++ text) = "use" :: words text := by
    intro text
    rw [words, mentions_append_right hopen]
    rfl
  have hcolons : IsBreak "::" := checks_of rfl rfl
  have hbrace : IsBreak "::\x7b" := checks_of rfl rfl
  have hcomma : IsBreak ", " := checks_of rfl rfl
  have hsemicolon : IsBreak ";\n" := checks_of rfl rfl
  have hclosed : IsBreak "\x7d;\n" := checks_of rfl rfl
  unfold line
  split
  · next symbol =>
      rw [words_close hsemicolon, String.append_assoc, String.append_assoc, huse, words_break hcolons,
        words_word (h symbol List.mem_cons_self)]
  · rw [words_close hclosed, String.append_assoc, String.append_assoc, huse, words_break hbrace,
      words_join hcomma h]

theorem words_text {imports : Imports} (h : ∀ use ∈ imports.uses, IsWord use.symbol) :
    words imports.text = imports.entries.flatMap fun entry => "use" :: (words entry.1 ++ entry.2) := by
  have hends : ∀ path symbols, EndsOpen (line path symbols) := by
    intro path symbols
    have hsemicolon : EndsOpen ";\n" := checks_of rfl rfl
    have hclosed : EndsOpen "\x7d;\n" := checks_of rfl rfl
    unfold line
    split
    · exact hsemicolon.append
    · exact hclosed.append
  have hlines : ∀ line ∈ imports.entries.map fun entry => Imports.line entry.1 entry.2, EndsOpen line :=
    List.forall_mem_map.mpr fun entry _ => hends entry.1 entry.2
  rw [text, words_lines hlines, List.flatMap_map]
  refine List.flatMap_congr fun entry hentry => words_line entry.1 fun symbol hsymbol => ?_
  exact h ⟨entry.1, symbol⟩ (List.mem_flatMap.mpr ⟨entry, hentry, List.mem_map.mpr ⟨symbol, hsymbol, rfl⟩⟩)

/-- A word that no path has, and that is imported from one path at most, is found once in the lines if it is
imported. -/
theorem count_words_text {recorded : List Use} (hwords : ∀ use ∈ recorded, IsWord use.symbol)
    {path symbol : String} (hfree : symbol ≠ "use") (hpaths : ∀ use ∈ recorded, symbol ∉ words use.path)
    (honly : ∀ use ∈ recorded, use.symbol = symbol → use = ⟨path, symbol⟩) :
    (words (empty.recordAll recorded).text).count symbol = if ⟨path, symbol⟩ ∈ recorded then 1 else 0 := by
  have hlisted : ∀ {other}, other ∈ (empty.recordAll recorded).uses → other ∈ recorded := mem_uses_recordAll.mp
  -- Neither the keyword nor the path of a line is the word, so the symbols of the line are all that count.
  have hentry : ∀ entry ∈ (empty.recordAll recorded).entries,
      ("use" :: (words entry.1 ++ entry.2)).count symbol = (entry.2.map (Use.mk entry.1)).countP
        fun other => other.symbol == symbol := by
    intro entry hmem
    obtain ⟨other, hother, hpath⟩ := exists_use hmem
    have hbefore : (words entry.1).count symbol = 0 := List.count_eq_zero.mpr (hpath ▸ hpaths other hother)
    rw [List.count_cons_of_ne hfree.symm, List.count_append, hbefore, Nat.zero_add, List.countP_map]
    rfl
  calc (words (empty.recordAll recorded).text).count symbol
      = (empty.recordAll recorded).uses.countP fun other => other.symbol == symbol := by
        rw [words_text fun other h => hwords other (hlisted h), List.count_flatMap, uses, List.countP_flatMap]
        exact congrArg List.sum (List.map_congr_left hentry)
    _ = (empty.recordAll recorded).uses.count ⟨path, symbol⟩ := by
        refine List.countP_congr fun other hother => ?_
        rw [beq_iff_eq, beq_iff_eq]
        exact ⟨honly other (hlisted hother), congrArg Use.symbol⟩
    _ = if ⟨path, symbol⟩ ∈ recorded then 1 else 0 := by
        split
        · next h =>
            exact List.count_eq_one_of_mem (nodup_uses_recordAll recorded) (mem_uses_recordAll.mpr h)
        · next h => exact List.count_eq_zero.mpr fun hmem => h (hlisted hmem)

end Imports

end RegionGateway.Rust
