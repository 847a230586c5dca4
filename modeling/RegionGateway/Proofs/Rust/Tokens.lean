import Mathlib.Tactic.Common

/-!
# Tokens of Rust

The part of Rust's lexical structure that generated files use: words, string literals, punctuation and line
comments. Text is read character by character (`Reading.step`); what lies outside of that part is a stray
token. Parts of a text are read one after the other: one after which a word may still go on (`Reads`) is
closed by one that starts apart from words (`Reads.closed`).
-/

namespace RegionGateway.Rust

/-! ## Reading tokens -/

/-- A token. -/
inductive Token where
  /-- An identifier, a keyword, a number or a lifetime. -/
  | word (text : String)
  /-- A string literal, with what is written between its quotes. -/
  | literal (content : String)
  /-- A punctuation character. -/
  | mark (c : Char)
  /-- Text that is not read. -/
  | stray
  deriving DecidableEq

/-- A character of words. -/
def isWordChar (c : Char) : Bool := c.isAlphanum || c == '_'

/-- The white space between tokens. -/
def isGap (c : Char) : Bool := c == ' ' || c == '\n' || c == '\t' || c == '\r'

/-- The characters that are tokens. -/
def marks : List Char :=
  ['!', '#', '$', '%', '&', '(', ')', '*', '+', ',', '-', '.', ':', ';', '<', '=', '>', '?', '@', '[', ']', '^',
    '\x7b', '|', '\x7d', '~']

/-- How far reading has come. -/
inductive Reading where
  /-- Between tokens. -/
  | between
  /-- In a word. -/
  | word (start : List Char)
  /-- After the mark of a raw identifier. -/
  | raw
  /-- After the mark of a lifetime. -/
  | tick
  /-- After a slash. -/
  | slash
  /-- In a comment up to the end of the line. -/
  | comment
  /-- In a literal. -/
  | literal (start : List Char)
  /-- In a literal, after a backslash. -/
  | escape (start : List Char)
  deriving DecidableEq

namespace Reading

/-- Reads a character with which something begins. -/
def start (c : Char) : Reading × List Token :=
  if isWordChar c then (.word [c], [])
  else if isGap c then (.between, [])
  else if c = '"' then (.literal [], [])
  else if c = '/' then (.slash, [])
  else if c = '\'' then (.tick, [])
  else if c ∈ marks then (.between, [.mark c])
  else (.between, [.stray])

/-- Ends a token with the character after it. -/
def startAfter (token : Token) (c : Char) : Reading × List Token :=
  ((start c).1, token :: (start c).2)

/-- Reads a character. A literal or another mark directly after a word is not read: the word would belong to
it. -/
def step : Reading → Char → Reading × List Token
  | .between, c => start c
  | .word cs, c =>
    if isWordChar c then (.word (cs ++ [c]), [])
    else if c = '#' ∧ cs = ['r'] then (.raw, [])
    else if c = '#' ∨ c = '"' ∨ c = '\'' then (.between, [.stray])
    else startAfter (.word (String.ofList cs)) c
  | .raw, c => if isWordChar c then (.word ['r', '#', c], []) else (.between, [.stray])
  | .tick, c => if isWordChar c then (.word ['\'', c], []) else (.between, [.stray])
  | .slash, c =>
    if c = '/' then (.comment, [])
    else if c = '*' then (.between, [.stray])
    else startAfter (.mark '/') c
  | .comment, c => if c = '\n' then (.between, []) else (.comment, [])
  | .literal cs, c =>
    if c = '"' then (.between, [.literal (String.ofList cs)])
    else if c = '\\' then (.escape (cs ++ [c]), [])
    else (.literal (cs ++ [c]), [])
  | .escape cs, c => (.literal (cs ++ [c]), [])

/-- Reads characters. -/
def run (r : Reading) : List Char → Reading × List Token
  | [] => (r, [])
  | c :: cs => ((run (r.step c).1 cs).1, (r.step c).2 ++ (run (r.step c).1 cs).2)

/-- The token at the end of the text. -/
def last : Reading → List Token
  | .between => []
  | .comment => []
  | .word cs => [.word (String.ofList cs)]
  | .slash => [.mark '/']
  | _ => [.stray]

/-- Nothing is left, or a word that may go on. -/
def isSettled : Reading → Bool
  | .between => true
  | .word _ => true
  | _ => false

theorem run_append (r : Reading) (xs ys : List Char) :
    r.run (xs ++ ys) = (((r.run xs).1.run ys).1, (r.run xs).2 ++ ((r.run xs).1.run ys).2) := by
  induction xs generalizing r with
  | nil => rfl
  | cons x xs ih => simp only [List.cons_append, run, ih, List.append_assoc]

end Reading

/-- The tokens of a text. -/
def tokenize (text : String) : List Token :=
  (Reading.between.run text.toList).2 ++ (Reading.between.run text.toList).1.last

/-! ## Parts of a text -/

variable {a b : String} {ts us : List Token}

/-- A text that is read as tokens, with nothing left. -/
def Closed (text : String) (ts : List Token) : Prop := Reading.between.run text.toList = (.between, ts)

instance (text : String) (ts : List Token) : Decidable (Closed text ts) :=
  inferInstanceAs (Decidable (_ = _))

/-- A text that is read as tokens; the last one may be a word that is not ended. -/
def Reads (text : String) (ts : List Token) : Prop :=
  Closed text ts ∨ ∃ cs us, Reading.between.run text.toList = (.word cs, us) ∧
    us ++ [.word (String.ofList cs)] = ts

/-- A text that does not go on with a word before it. -/
def StartsApart (text : String) : Bool :=
  text.toList.head?.any fun c => !isWordChar c && c != '#' && c != '"' && c != '\''

theorem startsApart_append (h : StartsApart a) (b : String) : StartsApart (a ++ b) := by
  unfold StartsApart at h ⊢
  rw [String.toList_append]
  cases ha : a.toList with
  | nil => rw [ha] at h; cases h
  | cons c cs =>
      rw [ha] at h
      exact h

theorem Closed.reads (h : Closed a ts) : Reads a ts := .inl h

theorem Closed.run_append (ha : Closed a ts) (b : String) : Reading.between.run (a ++ b).toList =
    ((Reading.between.run b.toList).1, ts ++ (Reading.between.run b.toList).2) := by
  unfold Closed at ha
  rw [String.toList_append, Reading.run_append, ha]

/-- What starts apart ends a word as white space does. -/
theorem Reading.run_word {cs : List Char} (h : StartsApart b) : (Reading.word cs).run b.toList =
    ((between.run b.toList).1, .word (String.ofList cs) :: (between.run b.toList).2) := by
  unfold StartsApart at h
  cases hb : b.toList with
  | nil => rw [hb] at h; cases h
  | cons c rest =>
      rw [hb] at h
      simp only [List.head?_cons, Option.any_some, Bool.and_eq_true, Bool.not_eq_true', bne_iff_ne] at h
      obtain ⟨⟨⟨hword, hraw⟩, hquote⟩, htick⟩ := h
      have hstep : step (.word cs) c = startAfter (.word (String.ofList cs)) c := by
        simp [step, hword, hraw, hquote, htick]
      simp only [run, hstep, startAfter]
      rfl

theorem Reads.run_append (ha : Reads a ts) (h : StartsApart b) : Reading.between.run (a ++ b).toList =
    ((Reading.between.run b.toList).1, ts ++ (Reading.between.run b.toList).2) := by
  rcases ha with ha | ⟨cs, ws, ha, rfl⟩
  · exact ha.run_append b
  · rw [String.toList_append, Reading.run_append, ha]
    dsimp only
    rw [Reading.run_word h, List.append_assoc]
    rfl

theorem Closed.append (ha : Closed a ts) (hb : Closed b us) : Closed (a ++ b) (ts ++ us) := by
  unfold Closed at hb
  rw [Closed, ha.run_append, hb]

/-- A text that starts apart ends the one before it. -/
theorem Reads.closed (ha : Reads a ts) (hb : Closed b us) (h : StartsApart b) : Closed (a ++ b) (ts ++ us) := by
  unfold Closed at hb
  rw [Closed, ha.run_append h, hb]

theorem Closed.reads_append (ha : Closed a ts) (hb : Reads b us) : Reads (a ++ b) (ts ++ us) := by
  rcases hb with hb | ⟨cs, ws, hb, rfl⟩
  · exact (ha.append hb).reads
  · exact .inr ⟨cs, ts ++ ws, by rw [ha.run_append, hb], List.append_assoc _ _ _⟩

theorem Reads.append (ha : Reads a ts) (hb : Reads b us) (h : StartsApart b) : Reads (a ++ b) (ts ++ us) := by
  rcases hb with hb | ⟨cs, ws, hb, rfl⟩
  · exact (ha.closed hb h).reads
  · exact .inr ⟨cs, ts ++ ws, by rw [ha.run_append h, hb], List.append_assoc _ _ _⟩

theorem tokenize_of_reads (h : Reads a ts) : tokenize a = ts := by
  rcases h with h | ⟨cs, us, h, rfl⟩
  · unfold Closed at h
    simp [tokenize, h, Reading.last]
  · simp [tokenize, h, Reading.last]

theorem reads_iff : Reads a ts ↔ tokenize a = ts ∧ (Reading.between.run a.toList).1.isSettled = true := by
  constructor
  · intro h
    refine ⟨tokenize_of_reads h, ?_⟩
    rcases h with h | ⟨cs, us, h, rfl⟩
    · unfold Closed at h
      rw [h]
      rfl
    · rw [h]
      rfl
  · rintro ⟨rfl, hsettled⟩
    cases hrun : Reading.between.run a.toList with
    | mk r us =>
        rw [hrun] at hsettled
        cases r with
        | between => exact .inl (by simp [Closed, tokenize, hrun, Reading.last])
        | word cs => exact .inr ⟨cs, us, hrun, by simp [tokenize, hrun, Reading.last]⟩
        | _ => cases hsettled

/-! ## Words, literals and comments -/

/-- A text of word characters. -/
def IsWord (text : String) : Prop := text.toList ≠ [] ∧ ∀ c ∈ text.toList, isWordChar c = true

instance (text : String) : Decidable (IsWord text) :=
  decidable_of_iff ((!text.toList.isEmpty && text.toList.all isWordChar) = true) (by simp [IsWord])

/-- A word, or the raw identifier of one. -/
def IsName (text : String) : Prop := ∃ word, IsWord word ∧ (text = word ∨ text = "r#" ++ word)

theorem IsWord.exists_cons {text : String} (h : IsWord text) :
    ∃ c cs, text.toList = c :: cs ∧ isWordChar c = true ∧ ∀ d ∈ cs, isWordChar d = true := by
  obtain ⟨hne, hchars⟩ := h
  obtain ⟨c, cs, hcs⟩ := List.exists_cons_of_ne_nil hne
  rw [hcs] at hchars
  exact ⟨c, cs, hcs, List.forall_mem_cons.mp hchars⟩

theorem IsWord.no_newline {text : String} (h : IsWord text) : '\n' ∉ text.toList := by
  intro hmem
  exact absurd (h.2 _ hmem) (by decide)

theorem Reading.run_word_append {start cs : List Char} (h : ∀ c ∈ cs, isWordChar c = true) :
    (Reading.word start).run cs = (.word (start ++ cs), []) := by
  induction cs generalizing start with
  | nil => rw [List.append_nil]; rfl
  | cons c cs ih =>
      obtain ⟨hc, hcs⟩ := List.forall_mem_cons.mp h
      have hstep : step (.word start) c = (.word (start ++ [c]), []) := if_pos hc
      rw [run, hstep]
      dsimp only
      rw [ih hcs, List.append_assoc]
      rfl

theorem reads_word {text : String} (h : IsWord text) : Reads text [.word text] := by
  obtain ⟨c, cs, hcs, hc, hrest⟩ := h.exists_cons
  refine .inr ⟨c :: cs, [], ?_, by rw [← hcs, String.ofList_toList]; rfl⟩
  have hstart : Reading.between.step c = (.word [c], []) := if_pos hc
  rw [hcs, Reading.run, hstart]
  dsimp only
  rw [Reading.run_word_append hrest]
  rfl

theorem reads_name {text : String} (h : IsName text) : Reads text [.word text] := by
  obtain ⟨word, hword, rfl | rfl⟩ := h
  · exact reads_word hword
  · obtain ⟨c, cs, hcs, hc, hrest⟩ := hword.exists_cons
    have hraw : Reading.between.run "r#".toList = (.raw, []) := by decide
    have hstep : Reading.raw.step c = (.word ['r', '#', c], []) := if_pos hc
    refine .inr ⟨'r' :: '#' :: c :: cs, [], ?_, ?_⟩
    · rw [String.toList_append, Reading.run_append, hraw, hcs]
      dsimp only
      rw [Reading.run, hstep]
      dsimp only
      rw [Reading.run_word_append hrest]
      rfl
    · have hchars : 'r' :: '#' :: c :: cs = ("r#" ++ word).toList := by
        rw [String.toList_append, hcs]
        rfl
      rw [hchars, String.ofList_toList]
      rfl

/-- A text that may stand between quotes as it is. -/
def IsClean (content : String) : Prop := '"' ∉ content.toList ∧ '\\' ∉ content.toList

instance (content : String) : Decidable (IsClean content) := inferInstanceAs (Decidable (_ ∧ _))

theorem Reading.run_literal {start cs : List Char} (hquote : '"' ∉ cs) (hslash : '\\' ∉ cs) :
    (Reading.literal start).run cs = (.literal (start ++ cs), []) := by
  induction cs generalizing start with
  | nil => rw [List.append_nil]; rfl
  | cons c cs ih =>
      simp only [List.mem_cons, not_or] at hquote hslash
      have hstep : step (.literal start) c = (.literal (start ++ [c]), []) := by
        simp [step, Ne.symm hquote.1, Ne.symm hslash.1]
      rw [run, hstep]
      dsimp only
      rw [ih hquote.2 hslash.2, List.append_assoc]
      rfl

theorem closed_literal {content : String} (h : IsClean content) :
    Closed ("\"" ++ content ++ "\"") [.literal content] := by
  have hopen : Reading.between.run "\"".toList = (.literal [], []) := by decide
  have hclose : (Reading.literal content.toList).run "\"".toList =
      (.between, [.literal (String.ofList content.toList)]) := rfl
  rw [String.ofList_toList] at hclose
  rw [Closed, String.toList_append, String.toList_append, Reading.run_append, Reading.run_append, hopen]
  dsimp only
  rw [Reading.run_literal h.1 h.2, List.nil_append]
  dsimp only
  rw [hclose]
  rfl

theorem Reading.run_comment {cs : List Char} (h : '\n' ∉ cs) : Reading.comment.run cs = (.comment, []) := by
  induction cs with
  | nil => rfl
  | cons c cs ih =>
      simp only [List.mem_cons, not_or] at h
      have hstep : step .comment c = (.comment, []) := if_neg (Ne.symm h.1)
      rw [run, hstep]
      dsimp only
      rw [ih h.2]
      rfl

theorem closed_comment {start line : String} (hstart : Reading.between.run start.toList = (.comment, []))
    (h : '\n' ∉ line.toList) : Closed (start ++ line ++ "\n") [] := by
  have hend : Reading.comment.run "\n".toList = (.between, []) := by decide
  rw [Closed, String.toList_append, String.toList_append, Reading.run_append, Reading.run_append, hstart]
  dsimp only
  rw [Reading.run_comment h]
  dsimp only
  rw [hend]
  rfl

theorem closed_gaps {text : String} (h : ∀ c ∈ text.toList, c = ' ') : Closed text [] := by
  unfold Closed
  generalize text.toList = chars at h
  induction chars with
  | nil => rfl
  | cons c cs ih =>
      obtain ⟨rfl, hcs⟩ := List.forall_mem_cons.mp h
      have hstep : Reading.between.step ' ' = (.between, []) := by decide
      rw [Reading.run, hstep]
      dsimp only
      rw [ih hcs]
      rfl

end RegionGateway.Rust
