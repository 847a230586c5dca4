import RegionGateway.Proofs.Rust.Names
import RegionGateway.Proofs.Text.Parts
import RegionGateway.Rust.Tree

/-!
# The words of a text

The words of a text are its runs of letters, numbers and underscores, each with whether a double colon follows
(`mentions`). Parts of a text that words cannot run across have their own words (`mentions_append_left`,
`mentions_append_right`). So words are looked for in the parts of a text (`hits`), and texts of the layout between
them do not matter to those who ignore their words (`hits_glue`, `hits_join`).
-/

namespace RegionGateway.Rust

/-! ## Words -/

/-- A character of identifiers. -/
def isIdentChar (c : Char) : Bool := Text.isAlphanumeric c || c == '_'

/-- A word of a text, and whether a double colon follows. -/
abbrev Mention := String × Bool

/-- The word that some characters are, if there are any. -/
def wordOf (chars : List Char) (colons : Bool) : List Mention :=
  if chars.isEmpty then [] else [(String.ofList chars, colons)]

/-- The words of characters that are read after those of a word. -/
def mentionsAfter : List Char → List Char → List Mention
  | current, [] => wordOf current false
  | current, c :: rest =>
    if isIdentChar c then mentionsAfter (current ++ [c]) rest
    else wordOf current (c == ':' && rest.head? == some ':') ++ mentionsAfter [] rest

/-- The words of a text. -/
def mentions (text : String) : List Mention := mentionsAfter [] text.toList

/-- A character that separates words, and does not say anything about them. -/
def isSeam (c : Char) : Bool := !isIdentChar c && c != ':'

/-- The characters of a text pass a check. -/
def Checks (check : List Char → Bool) (text : String) : Prop := check text.toList = true

theorem checks_of {check : List Char → Bool} {text : String} {chars : List Char} (h : text = String.ofList chars)
    (hchars : check chars = true) : Checks check text := by
  rwa [Checks, h, String.toList_ofList]

/-- No word runs into the text, nor does a double colon. -/
abbrev StartsOpen : String → Prop := Checks fun chars => chars.head?.any isSeam

/-- No word runs out of the text, nor does a double colon. -/
abbrev EndsOpen : String → Prop := Checks fun chars => chars.getLast?.any isSeam

theorem isSeam_iff {c : Char} : isSeam c = true ↔ isIdentChar c = false ∧ c ≠ ':' := by
  simp [isSeam]

theorem mentionsAfter_append_left {c : Char} (hc : isSeam c = true) (current xs ys : List Char) :
    mentionsAfter current (xs ++ c :: ys) = mentionsAfter current xs ++ mentionsAfter [] (c :: ys) := by
  obtain ⟨hident, hcolon⟩ := isSeam_iff.mp hc
  have hmark : (c == ':') = false := beq_eq_false_iff_ne.mpr hcolon
  -- A word at the end of `xs` looks one character ahead, which is `c` and no colon.
  induction xs generalizing current with
  | nil => simp [mentionsAfter, hident, hmark, wordOf]
  | cons x xs ih =>
      have hhead : ((xs ++ c :: ys).head? == some ':') = (xs.head? == some ':') := by
        cases xs <;> simp [hmark]
      simp only [List.cons_append, mentionsAfter, ih, hhead]
      split <;> simp

theorem mentionsAfter_append_right {c : Char} (hc : isSeam c = true) (current xs ys : List Char) :
    mentionsAfter current (xs ++ c :: ys) = mentionsAfter current (xs ++ [c]) ++ mentionsAfter [] ys := by
  obtain ⟨hident, hcolon⟩ := isSeam_iff.mp hc
  rw [mentionsAfter_append_left hc, mentionsAfter_append_left hc, List.append_assoc]
  simp [mentionsAfter, hident, wordOf]

section

variable {a b : String}

/-- Words do not run into a text that starts open. -/
theorem mentions_append_left (h : StartsOpen b) : mentions (a ++ b) = mentions a ++ mentions b := by
  obtain ⟨c, hhead, hc⟩ := (Option.any_eq_true _ _).mp h
  obtain ⟨ys, hys⟩ := List.head?_eq_some_iff.mp hhead
  rw [mentions, String.toList_append, hys, mentionsAfter_append_left hc, mentions, mentions, hys]

/-- Words do not run out of a text that ends open. -/
theorem mentions_append_right (h : EndsOpen a) : mentions (a ++ b) = mentions a ++ mentions b := by
  obtain ⟨c, hlast, hc⟩ := (Option.any_eq_true _ _).mp h
  obtain ⟨xs, hxs⟩ := List.getLast?_eq_some_iff.mp hlast
  rw [mentions, String.toList_append, hxs, List.append_assoc, List.singleton_append,
    mentionsAfter_append_right hc, mentions, mentions, hxs]

theorem StartsOpen.append (h : StartsOpen a) : StartsOpen (a ++ b) := by
  obtain ⟨c, hhead, hc⟩ := (Option.any_eq_true _ _).mp h
  refine (Option.any_eq_true _ _).mpr ⟨c, ?_, hc⟩
  rw [String.toList_append, List.head?_append, hhead]
  rfl

theorem EndsOpen.append (h : EndsOpen b) : EndsOpen (a ++ b) := by
  obtain ⟨c, hlast, hc⟩ := (Option.any_eq_true _ _).mp h
  refine (Option.any_eq_true _ _).mpr ⟨c, ?_, hc⟩
  rw [String.toList_append, List.getLast?_append, hlast]
  rfl

end

/-! ## Texts in which some words are looked for -/

/-- Some word of the text is looked for. -/
def hits (p : Mention → Bool) (text : String) : Bool := (mentions text).any p

section

variable {p : Mention → Bool} {a b : String}

theorem hits_append_left (h : StartsOpen b) : hits p (a ++ b) = (hits p a || hits p b) := by
  rw [hits, mentions_append_left h, List.any_append, hits, hits]

theorem hits_append_right (h : EndsOpen a) : hits p (a ++ b) = (hits p a || hits p b) := by
  rw [hits, mentions_append_right h, List.any_append, hits, hits]

theorem hits_empty : hits p "" = false := rfl

theorem join_empty_cons (part : String) (parts : List String) :
    Text.join "" (part :: parts) = part ++ Text.join "" parts := by
  cases parts <;> simp [Text.join]

/-- Lines, one after the other, and what stands below them. -/
theorem hits_lines {parts : List String} (h : ∀ part ∈ parts, EndsOpen part) :
    hits p (Text.join "" parts ++ b) = (parts.any (hits p) || hits p b) := by
  induction parts with
  | nil => rw [Text.join, String.empty_append, List.any_nil, Bool.false_or]
  | cons part parts ih =>
      obtain ⟨hpart, hparts⟩ := List.forall_mem_cons.mp h
      rw [join_empty_cons, String.append_assoc, hits_append_right hpart, ih hparts, List.any_cons, Bool.or_assoc]

/-- Parts one after the other that words do not run into, and what stands behind them. -/
theorem startsOpen_join {parts : List String} (h : ∀ part ∈ parts, StartsOpen part) (hb : StartsOpen b) :
    StartsOpen (Text.join "" parts ++ b) := by
  cases parts with
  | nil => simpa [Text.join] using hb
  | cons part parts =>
      have hpart := (List.forall_mem_cons.mp h).1
      cases parts with
      | nil => exact hpart.append
      | cons next parts => exact hpart.append.append.append

theorem hits_pieces {parts : List String} (h : ∀ part ∈ parts, StartsOpen part) (hb : StartsOpen b) :
    hits p (Text.join "" parts ++ b) = (parts.any (hits p) || hits p b) := by
  induction parts with
  | nil => rw [Text.join, String.empty_append, List.any_nil, Bool.false_or]
  | cons part parts ih =>
      obtain ⟨hpart, hparts⟩ := List.forall_mem_cons.mp h
      rw [join_empty_cons, String.append_assoc, hits_append_left (startsOpen_join hparts hb), ih hparts,
        List.any_cons, Bool.or_assoc]

end

/-! ## The layout -/

/-- The words of the layout. -/
def layoutWords : List String := [
  "pub", "async", "fn", "where", "B", "Sized", "let", "else", "return", "if", "for", "in", "match", "await", "mut",
  "dyn", "self", "type", "trait", "Send", "Sync", "const", "derive", "struct", "serde", "rename", "impl"]

/-- None of the words of the layout is looked for. -/
def Ignores (p : Mention → Bool) : Prop := ∀ word ∈ layoutWords, p (word, false) = false

/-- Characters all of whose words are those of the layout. -/
def areLayout (chars : List Char) : Bool :=
  (mentionsAfter [] chars).all fun mention => mention.1 ∈ layoutWords && !mention.2

/-- A text of the layout. -/
abbrev IsLayout : String → Prop := Checks areLayout

/-- A text of the layout that stands before others. -/
structure IsOpening (text : String) : Prop where
  layout : IsLayout text
  ends : EndsOpen text

/-- A text of the layout that stands behind others. -/
structure IsClosing (text : String) : Prop where
  layout : IsLayout text
  starts : StartsOpen text

/-- A text of the layout that stands between others. -/
structure IsGlue (text : String) : Prop extends IsOpening text, IsClosing text

section

variable {text : String} {chars : List Char} (h : text = String.ofList chars)
include h

theorem isOpening_of (hchars : (areLayout chars && chars.getLast?.any isSeam) = true) : IsOpening text := by
  obtain ⟨hlayout, hlast⟩ := Bool.and_eq_true_iff.mp hchars
  exact ⟨checks_of h hlayout, checks_of h hlast⟩

theorem isClosing_of (hchars : (areLayout chars && chars.head?.any isSeam) = true) : IsClosing text := by
  obtain ⟨hlayout, hfirst⟩ := Bool.and_eq_true_iff.mp hchars
  exact ⟨checks_of h hlayout, checks_of h hfirst⟩

theorem isGlue_of (hchars : (areLayout chars && chars.getLast?.any isSeam && chars.head?.any isSeam) = true) :
    IsGlue text := by
  obtain ⟨hopening, hfirst⟩ := Bool.and_eq_true_iff.mp hchars
  exact ⟨isOpening_of h hopening, checks_of h hfirst⟩

end

theorem isGlue_indent (depth : Nat) : IsGlue (indent (depth + 1)) := by
  have hblank : isIdentChar ' ' = false := by decide
  have hspaces : ∀ n, mentionsAfter [] (List.replicate n ' ') = [] := by
    intro n
    induction n with
    | zero => rfl
    | succ n ih => simpa [List.replicate_succ, mentionsAfter, wordOf, hblank] using ih
  have hchars : (indent (depth + 1)).toList = List.replicate (4 * depth + 4) ' ' := String.toList_ofList
  have hseam : isSeam ' ' = true := by decide
  refine ⟨⟨?_, ?_⟩, ?_⟩
  · show areLayout _ = true
    rw [hchars, areLayout, hspaces]
    rfl
  · show (List.getLast? _).any isSeam = true
    rw [hchars, List.getLast?_replicate]
    simpa using hseam
  · show (List.head? _).any isSeam = true
    rw [hchars, List.head?_replicate]
    simpa using hseam

section

variable {p : Mention → Bool} {a b glue : String} (hp : Ignores p)
include hp

theorem hits_layout (h : IsLayout a) : hits p a = false := by
  rw [hits, List.any_eq_false]
  intro mention hmention
  obtain ⟨word, colons⟩ := mention
  have hword := List.all_eq_true.mp h _ hmention
  simp only [Bool.and_eq_true, decide_eq_true_eq, Bool.not_eq_true'] at hword
  obtain ⟨hword, rfl⟩ := hword
  exact Bool.eq_false_iff.mp (hp word hword)

theorem hits_opening (h : IsOpening a) : hits p (a ++ b) = hits p b := by
  rw [hits_append_right h.ends, hits_layout hp h.layout, Bool.false_or]

theorem hits_closing (h : IsClosing b) : hits p (a ++ b) = hits p a := by
  rw [hits_append_left h.starts, hits_layout hp h.layout, Bool.or_false]

theorem hits_glue (h : IsGlue glue) : hits p (a ++ (glue ++ b)) = (hits p a || hits p b) := by
  rw [hits_append_left (h.starts.append), hits_opening hp h.toIsOpening]

theorem hits_join (h : IsGlue glue) (parts : List String) :
    hits p (Text.join glue parts) = parts.any (hits p) := by
  induction parts with
  | nil => rfl
  | cons part parts ih =>
      cases parts with
      | nil => simp [Text.join]
      | cons next parts =>
          rw [Text.join_cons (List.cons_ne_nil _ _), String.append_assoc, hits_glue hp h, ih]
          rfl

/-- A colon and a blank stand between words, and do not say anything about the word before them. -/
theorem hits_colon : hits p (a ++ (": " ++ b)) = (hits p (a ++ ":") || hits p b) := by
  have hblank : IsGlue " " := isGlue_of rfl (by decide)
  have hparts : a ++ (": " ++ b) = a ++ ":" ++ (" " ++ b) := by
    rw [String.append_assoc, ← @String.append_assoc ":" " " b]
    rfl
  rw [hparts, hits_glue hp hblank]

theorem hits_indent (depth : Nat) : hits p (indent depth ++ b) = hits p b := by
  cases depth with
  | zero => rw [show indent 0 = "" from rfl, String.empty_append]
  | succ depth => exact hits_opening hp (isGlue_indent depth).toIsOpening

/-- A text on a line of its own below another. -/
theorem hits_below (depth : Nat) (h : StartsOpen b) :
    hits p (a ++ (indent depth ++ b)) = (hits p a || hits p b) := by
  cases depth with
  | zero => rw [show indent 0 = "" from rfl, String.empty_append, hits_append_left h]
  | succ depth => rw [hits_glue hp (isGlue_indent depth)]

end

/-! ## The words of parts of a text -/

theorem isSeam_of_isBlank {c : Char} (h : Text.isBlank c = true) : isSeam c = true := by
  have hcodes : ∀ n ∈ [9, 10, 11, 12, 13, 0x20, 0x85, 0xA0, 0x1680, 0x2000, 0x2001, 0x2002, 0x2003, 0x2004, 0x2005,
      0x2006, 0x2007, 0x2008, 0x2009, 0x200A, 0x2028, 0x2029, 0x202F, 0x205F, 0x3000],
      isSeam (Char.ofNat n) = true := by decide +kernel
  have hcode : c.toNat ∈ [9, 10, 11, 12, 13, 0x20, 0x85, 0xA0, 0x1680, 0x2000, 0x2001, 0x2002, 0x2003, 0x2004,
      0x2005, 0x2006, 0x2007, 0x2008, 0x2009, 0x200A, 0x2028, 0x2029, 0x202F, 0x205F, 0x3000] := by
    simp only [Text.isBlank, Bool.or_eq_true, Bool.and_eq_true, decide_eq_true_eq, beq_iff_eq] at h
    simp only [List.mem_cons, List.not_mem_nil, or_false]
    omega
  have hchar := hcodes _ hcode
  rwa [Char.ofNat_toNat] at hchar

theorem mentionsAfter_seams {cs : List Char} (h : ∀ c ∈ cs, isSeam c = true) (current xs : List Char) :
    mentionsAfter current (xs ++ cs) = mentionsAfter current xs ∧
      mentionsAfter [] (cs ++ xs) = mentionsAfter [] xs := by
  have hskip : ∀ ys, mentionsAfter [] (cs ++ ys) = mentionsAfter [] ys := by
    intro ys
    induction cs with
    | nil => rfl
    | cons c cs ih =>
        obtain ⟨hc, hcs⟩ := List.forall_mem_cons.mp h
        rw [List.cons_append, mentionsAfter, (isSeam_iff.mp hc).1, ih hcs]
        rfl
  refine ⟨?_, hskip xs⟩
  cases cs with
  | nil => rw [List.append_nil]
  | cons c cs =>
      have hnone := hskip []
      rw [List.append_nil] at hnone
      rw [mentionsAfter_append_left (h c List.mem_cons_self), hnone]
      simp [mentionsAfter, wordOf]

/-- Separators in the place of others do not change the words. -/
theorem mentions_map {f : Char → Char} (h : ∀ c, f c = c ∨ (isSeam c = true ∧ isSeam (f c) = true))
    (text : String) : mentions (String.ofList (text.toList.map f)) = mentions text := by
  have hcolon : ∀ cs : List Char, ((cs.map f).head? == some ':') = (cs.head? == some ':') := by
    intro cs
    cases cs with
    | nil => rfl
    | cons c cs =>
        rcases h c with hsame | ⟨hc, hfc⟩
        · rw [List.map_cons, hsame]
          rfl
        · have hmarks := And.intro (isSeam_iff.mp hc).2 (isSeam_iff.mp hfc).2
          simp [hmarks.1, hmarks.2]
  have hchars : ∀ current cs, mentionsAfter current (cs.map f) = mentionsAfter current cs := by
    intro current cs
    induction cs generalizing current with
    | nil => rfl
    | cons c cs ih =>
        rw [List.map_cons, mentionsAfter, mentionsAfter, hcolon, ih, ih]
        rcases h c with hsame | ⟨hc, hfc⟩
        · rw [hsame]
        · have hmarks : (c == ':') = false ∧ (f c == ':') = false :=
            ⟨beq_eq_false_iff_ne.mpr (isSeam_iff.mp hc).2, beq_eq_false_iff_ne.mpr (isSeam_iff.mp hfc).2⟩
          simp [(isSeam_iff.mp hc).1, (isSeam_iff.mp hfc).1, hmarks]
  rw [mentions, String.toList_ofList, hchars, mentions]

/-- White space at the ends of a text has no words. -/
theorem mentions_trim (text : String) : mentions (Text.trim text) = mentions text := by
  obtain ⟨front, back, htext, hfront, hback⟩ := Text.exists_trimChars text.toList
  have hstart : ∀ c ∈ front, isSeam c = true := fun c hc => isSeam_of_isBlank (hfront c hc)
  have hend : ∀ c ∈ back, isSeam c = true := fun c hc => isSeam_of_isBlank (hback c hc)
  have hwords : mentions text = mentionsAfter [] (front ++ (Text.trimChars text.toList ++ back)) := by
    rw [← List.append_assoc, ← htext, mentions]
  rw [hwords, (mentionsAfter_seams hstart [] _).2, (mentionsAfter_seams hend [] _).1, mentions, Text.trim,
    String.toList_ofList]

/-- The words of a text are those before a mark and those behind it. -/
theorem mentions_cut {mark : Char} (hmark : isSeam mark = true) {text first rest : String}
    (h : Text.cut? mark text = some (first, rest)) : mentions text = mentions first ++ mentions rest := by
  have hrest : mentionsAfter [] (mark :: rest.toList) = mentionsAfter [] rest.toList :=
    (mentionsAfter_seams (List.forall_mem_singleton.mpr hmark) [] rest.toList).2
  rw [mentions, Text.toList_of_cut? h, mentionsAfter_append_left hmark, hrest, mentions, mentions]

/-! ## The words of names -/

theorem mentionsAfter_word {word : List Char} (h : ∀ c ∈ word, isWordChar c = true) (current cs : List Char) :
    mentionsAfter current (word ++ cs) = mentionsAfter (current ++ word) cs := by
  induction word generalizing current with
  | nil => rw [List.nil_append, List.append_nil]
  | cons c word ih =>
      obtain ⟨hc, hword⟩ := List.forall_mem_cons.mp h
      rw [List.cons_append, mentionsAfter, isIdentChar, if_pos (identChar_of_word hc).2, ih hword,
        List.append_assoc, List.singleton_append]

theorem wordOf_word {word : String} (h : IsWord word) (colons : Bool) :
    wordOf word.toList colons = [(word, colons)] := by
  rw [wordOf, if_neg (by simpa using h.1), String.ofList_toList]

theorem mentions_word {word : String} (h : IsWord word) : mentions word = [(word, false)] := by
  have hchars := mentionsAfter_word h.2 [] []
  rwa [List.append_nil, List.nil_append, mentionsAfter, wordOf_word h] at hchars

/-- A single colon does not say anything about the name before it. -/
theorem mentions_label {name : String} (h : IsName name) : mentions (name ++ ":") = mentions name := by
  have hcolon : isIdentChar ':' = false := by decide
  have hword : ∀ {word : String}, IsWord word → mentions (word ++ ":") = mentions word := by
    intro word hword
    have hmark : (":" : String).toList = [':'] := rfl
    rw [mentions_word hword, mentions, String.toList_append, hmark, mentionsAfter_word hword.2, List.nil_append,
      mentionsAfter, hcolon]
    exact congrArg (· ++ []) (wordOf_word hword false)
  obtain ⟨word, hname, rfl | rfl⟩ := h
  · exact hword hname
  · have hmark : EndsOpen "r#" := checks_of rfl rfl
    rw [String.append_assoc, mentions_append_right hmark, mentions_append_right hmark, hword hname]

theorem hits_label {p : Mention → Bool} {name : String} (h : IsName name) :
    hits p (name ++ ":") = hits p name := by
  rw [hits, mentions_label h, hits]

/-- A word before a double colon. -/
theorem mentions_inModule {module : String} (h : IsWord module) (name : String) :
    mentions (module ++ "::" ++ name) = (module, true) :: mentions name := by
  have hcolon : isIdentChar ':' = false := by decide
  have hchars : (module ++ "::" ++ name).toList = module.toList ++ ':' :: ':' :: name.toList := by
    simp [String.toList_append]
  have hrest : mentionsAfter [] (':' :: name.toList) = mentions name := by
    simp [mentionsAfter, hcolon, wordOf, mentions]
  rw [mentions, hchars, mentionsAfter_word h.2, List.nil_append, mentionsAfter, hcolon, hrest]
  exact congrArg (· ++ mentions name) (wordOf_word h true)

/-- The words of a name with another before it, which begins one of them. -/
theorem mem_mentions_append {start name : String} (hstart : IsWord start) (hname : IsName name)
    {mention : Mention} (h : mention ∈ mentions (start ++ name)) :
    mention.2 = false ∧ ((∃ rest, mention.1 = start ++ rest) ∨ mention ∈ mentions name) := by
  obtain ⟨word, hword, hform⟩ := hname
  rcases hform with rfl | rfl
  · rw [mentions_word (isWord_append hstart (List.all_eq_true.mpr hword.2)), List.mem_singleton] at h
    subst h
    exact ⟨rfl, .inl ⟨name, rfl⟩⟩
  · have hmark : StartsOpen "#" ∧ EndsOpen "#" := ⟨checks_of rfl rfl, checks_of rfl rfl⟩
    have hempty : mentions "#" = [] := by decide
    have hraw : ∀ before : String, IsWord before →
        mentions (before ++ "#" ++ word) = [(before, false), (word, false)] := by
      intro before hbefore
      rw [mentions_append_right hmark.2.append, mentions_append_left hmark.1, hempty, mentions_word hbefore,
        mentions_word hword]
      rfl
    have hparts : start ++ ("r#" ++ word) = start ++ "r" ++ "#" ++ word := by
      simp only [String.append_assoc]
      rfl
    rw [hparts, hraw _ (isWord_append hstart (by decide)), List.mem_cons, List.mem_singleton] at h
    rcases h with rfl | rfl
    · exact ⟨rfl, .inl ⟨"r", rfl⟩⟩
    · refine ⟨rfl, .inr ?_⟩
      have hname := hraw "r" (by decide)
      rw [show "r" ++ "#" = "r#" from rfl] at hname
      rw [hname]
      simp

end RegionGateway.Rust
