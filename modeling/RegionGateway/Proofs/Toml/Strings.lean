import Mathlib.Tactic.Common
import RegionGateway.Toml.StringText

/-!
# Written strings are read back

Whichever way a string is written, it is read as that string (`read?_write`), unless a quote follows it:
strings on several lines may end in quotes, so that one more would be taken for theirs.

* `shown_cases` says what stands for a character between double quotes: an escape, or the character;
* `ShortFront` is what keeps a string on several lines open: at no place of what is written between the
  delimiters do more than two quotes begin, but for those that the string ends in;
* `basic_shown`, `literal_append`, `basicLines_linesContent` and `literalLines_append` are the four ways.
-/

namespace RegionGateway.Toml.StringText

/-! ## Characters -/

/-- What is written for a character between double quotes on one line. -/
def shown (c : Char) : List Char := (escaped? c).getD [c]

/-- The digits of a code. -/
theorem ofCode?_upperHex : ∀ n < 0x80,
    ofCode? ['0', '0', upperHex (n / 16), upperHex (n % 16)] = some (Char.ofNat n) := by
  decide

theorem toNat_of_needsCode {c : Char} (h : needsCode c = true) : c.toNat < 0x80 := by
  simp only [needsCode, Bool.or_eq_true, Bool.and_eq_true, decide_eq_true_eq, beq_iff_eq] at h
  rcases h with ⟨⟨hlow, -⟩, -⟩ | rfl
  · exact Nat.lt_trans (UInt32.lt_iff_toNat_lt.mp hlow) (by decide)
  · decide

/-- A character that needs no code can stand in a text, unless it ends a line. -/
theorem isPrintable_of_not_needsCode {c : Char} (h : needsCode c = false) (hline : c ≠ '\n') :
    Scan.isPrintable c = true := by
  simp only [needsCode, Bool.or_eq_false_iff, Bool.and_eq_false_iff, decide_eq_false_iff_not,
    bne_eq_false_iff_eq, beq_eq_false_iff_ne] at h
  simp only [Scan.isPrintable, Bool.or_eq_true, Bool.and_eq_true, decide_eq_true_eq, beq_iff_eq,
    bne_iff_ne]
  obtain ⟨(hlow | htab) | hend, hdelete⟩ := h
  · exact .inr ⟨Char.not_lt.mp hlow, hdelete⟩
  · exact .inl htab
  · exact absurd hend hline

/-- A character is written as an escape, or as itself. -/
theorem shown_cases (c : Char) :
    (∃ front, shown c = '\\' :: front ∧ ∀ rest, escape? (front ++ rest) = some (c, rest) ∧
      lineIsBlank (front ++ rest) = false) ∨
    (shown c = [c] ∧ c ≠ '"' ∧ c ≠ '\\' ∧ Scan.isPrintable c = true) := by
  unfold shown escaped?
  split
  · exact .inl ⟨['b'], rfl, fun rest => ⟨rfl, rfl⟩⟩
  · exact .inl ⟨['t'], rfl, fun rest => ⟨rfl, rfl⟩⟩
  · exact .inl ⟨['n'], rfl, fun rest => ⟨rfl, rfl⟩⟩
  · exact .inl ⟨['f'], rfl, fun rest => ⟨rfl, rfl⟩⟩
  · exact .inl ⟨['r'], rfl, fun rest => ⟨rfl, rfl⟩⟩
  · exact .inl ⟨['"'], rfl, fun rest => ⟨rfl, rfl⟩⟩
  · exact .inl ⟨['\\'], rfl, fun rest => ⟨rfl, rfl⟩⟩
  · split
    · next hcode =>
        refine .inl ⟨['u', '0', '0', upperHex (c.toNat / 16), upperHex (c.toNat % 16)], rfl,
          fun rest => ⟨?_, rfl⟩⟩
        show (ofCode? _).map _ = _
        rw [ofCode?_upperHex _ (toNat_of_needsCode hcode), Char.ofNat_toNat]
        rfl
    · next hcode =>
        rename_i hline _ _ hquote hslash
        exact .inr ⟨rfl, hquote, hslash, isPrintable_of_not_needsCode (by simpa using hcode) hline⟩

/-- What is written for a character begins with a character that is no quote. -/
theorem shown_cons (c : Char) : ∃ d more, shown c = d :: more ∧ d ≠ '"' ∧ Scan.isPrintable d = true := by
  obtain ⟨front, hshown, -⟩ | ⟨hshown, hquote, -, hprintable⟩ := shown_cases c
  · exact ⟨'\\', front, hshown, by decide, by decide⟩
  · exact ⟨c, [], hshown, hquote, hprintable⟩

/-! ## Strings on one line -/

theorem basic_escape {c : Char} {cs rest : List Char} (h : escape? cs = some (c, rest)) (fuel : Nat) :
    basic (fuel + 1) ('\\' :: cs) = put c (basic fuel rest) := by
  show (escape? cs).bind _ = _
  rw [h]
  rfl

theorem basic_char {c : Char} (hquote : c ≠ '"') (hslash : c ≠ '\\') (h : Scan.isPrintable c = true)
    (fuel : Nat) (rest : List Char) : basic (fuel + 1) (c :: rest) = put c (basic fuel rest) := by
  rw [basic]
  · exact if_pos h
  · exact hquote
  · exact hslash

/-- Each character is read from what is written for it; the fuel lasts. -/
theorem basic_shown (cs rest : List Char) {fuel : Nat}
    (h : (cs.flatMap shown ++ '"' :: rest).length < fuel) :
    basic fuel (cs.flatMap shown ++ '"' :: rest) = some (cs, rest) := by
  induction cs generalizing fuel with
  | nil =>
      obtain ⟨fuel, rfl⟩ : ∃ n, fuel = n + 1 := ⟨fuel - 1, by omega⟩
      rfl
  | cons c cs ih =>
      obtain ⟨fuel, rfl⟩ : ∃ n, fuel = n + 1 := ⟨fuel - 1, by omega⟩
      rw [List.flatMap_cons, List.append_assoc] at h ⊢
      obtain ⟨front, hshown, hread⟩ | ⟨hshown, hquote, hslash, hprintable⟩ := shown_cases c
      · rw [hshown] at h ⊢
        rw [List.cons_append, basic_escape (hread _).1, ih (by simp at h ⊢; omega)]
        rfl
      · rw [hshown] at h ⊢
        rw [List.cons_append, List.nil_append, basic_char hquote hslash hprintable,
          ih (by simp at h ⊢; omega)]
        rfl

theorem literal_append {cs : List Char} (h : ∀ c ∈ cs, c ≠ '\'' ∧ Scan.isPrintable c = true)
    (rest : List Char) : literal (cs ++ '\'' :: rest) = some (cs, rest) := by
  induction cs with
  | nil => rfl
  | cons c cs ih =>
      obtain ⟨⟨hquote, hprintable⟩, hcs⟩ := List.forall_mem_cons.mp h
      rw [List.cons_append, literal, if_pos hprintable, ih hcs]
      · rfl
      · exact hquote

/-! ## Quotes in strings on several lines -/

/-- At most so many quotes stand at the front of a text, and they end it only if they are its content. -/
def ShortFront (quote : Char) (bound : Nat) (text content : List Char) : Prop :=
  ∃ n ≤ bound, (text = List.replicate n quote ∧ content = text) ∨
    ∃ d more, d ≠ quote ∧ text = List.replicate n quote ++ d :: more

namespace ShortFront

variable {quote d : Char} {bound : Nat} {text content : List Char}

theorem nil : ShortFront quote bound [] [] := ⟨0, Nat.zero_le _, .inl ⟨rfl, rfl⟩⟩

theorem of_ne (h : d ≠ quote) (more : List Char) : ShortFront quote bound (d :: more) content :=
  ⟨0, Nat.zero_le _, .inr ⟨d, more, h, rfl⟩⟩

theorem cons (h : ShortFront quote bound text content) :
    ShortFront quote (bound + 1) (quote :: text) (quote :: content) := by
  obtain ⟨n, hn, ⟨rfl, rfl⟩ | ⟨d, more, hd, rfl⟩⟩ := h
  · exact ⟨n + 1, Nat.succ_le_succ hn, .inl ⟨rfl, rfl⟩⟩
  · exact ⟨n + 1, Nat.succ_le_succ hn, .inr ⟨d, more, hd, rfl⟩⟩

end ShortFront

/-- Three quotes after at most two end a string, and the two belong to it. -/
theorem close?_replicate {quote : Char} {rest : List Char} (hrest : rest.head? ≠ some quote) {n : Nat}
    (hn : n ≤ 2) :
    close? quote (List.replicate n quote ++ (List.replicate 3 quote ++ rest)) =
      some (List.replicate n quote, rest) := by
  have hmore (k : Nat) : (rest.take k).takeWhile (· == quote) = [] := by
    cases rest with
    | nil => rw [List.take_nil, List.takeWhile_nil]
    | cons c rest =>
        cases k with
        | zero => rfl
        | succ k => exact List.takeWhile_cons_of_neg (by simpa using hrest)
  have htake : ((List.replicate n quote ++ rest).take 2).takeWhile (· == quote) =
      List.replicate n quote := by
    rw [List.take_append, List.take_of_length_le (by simpa using hn), List.takeWhile_append_of_pos,
      hmore, List.append_nil]
    simp
  have hswap : List.replicate n quote ++ (List.replicate 3 quote ++ rest) =
      quote :: quote :: quote :: (List.replicate n quote ++ rest) := by
    rw [← List.append_assoc, List.replicate_append_replicate, Nat.add_comm,
      ← List.replicate_append_replicate]
    rfl
  rw [hswap, close?, if_pos ⟨rfl, rfl, rfl⟩, htake]
  exact congrArg (fun after => some (_, after)) List.drop_left

theorem close?_eq_none {quote d : Char} (hd : d ≠ quote) (more : List Char) {n : Nat} (hn : n ≤ 2) :
    close? quote (List.replicate n quote ++ d :: more) = none := by
  unfold close?
  split
  · next a b c rest htext =>
      refine if_neg ?_
      rintro ⟨ha, hb, hc⟩
      obtain rfl | rfl | rfl : n = 0 ∨ n = 1 ∨ n = 2 := by omega
      · exact hd ((List.cons.inj htext).1.trans ha)
      · obtain ⟨-, htext⟩ := List.cons.inj htext
        exact hd ((List.cons.inj htext).1.trans hb)
      · obtain ⟨-, htext⟩ := List.cons.inj htext
        obtain ⟨-, htext⟩ := List.cons.inj htext
        exact hd ((List.cons.inj htext).1.trans hc)
  · rfl

/-- Before the delimiter, a text whose front is short either ends with its content or stays open. -/
theorem ShortFront.close? {quote : Char} {bound : Nat} {text content rest : List Char}
    (h : ShortFront quote bound text content) (hbound : bound ≤ 2) (hrest : rest.head? ≠ some quote) :
    StringText.close? quote (text ++ (List.replicate 3 quote ++ rest)) = some (content, rest) ∨
      text ≠ [] ∧ StringText.close? quote (text ++ (List.replicate 3 quote ++ rest)) = none := by
  obtain ⟨n, hn, ⟨rfl, rfl⟩ | ⟨d, more, hd, rfl⟩⟩ := h
  · exact .inl (close?_replicate hrest (Nat.le_trans hn hbound))
  · rw [List.append_assoc, List.cons_append]
    exact .inr ⟨by simp, close?_eq_none hd _ (Nat.le_trans hn hbound)⟩

theorem linesContent_quote {quotes : Nat} (h : quotes < 2) (cs : List Char) :
    linesContent quotes ('"' :: cs) = '"' :: linesContent (quotes + 1) cs := by
  rw [linesContent, if_pos h]

theorem linesContent_escaped_quote {quotes : Nat} (h : ¬ quotes < 2) (cs : List Char) :
    linesContent quotes ('"' :: cs) = '\\' :: '"' :: linesContent 0 cs := by
  rw [linesContent, if_neg h]

theorem linesContent_shown {c : Char} (hquote : c ≠ '"') (hline : c ≠ '\n') (quotes : Nat) (cs : List Char) :
    linesContent quotes (c :: cs) = shown c ++ linesContent 0 cs := by
  rw [linesContent, shown]
  · exact hquote
  · exact hline

/-- After some quotes of a run, no more are written than a run may have. -/
theorem shortFront_linesContent (cs : List Char) {quotes : Nat} (h : quotes ≤ 2) :
    ShortFront '"' (2 - quotes) (linesContent quotes cs) cs := by
  induction cs generalizing quotes with
  | nil => exact .nil
  | cons c cs ih =>
      by_cases hquote : c = '"'
      · subst hquote
        by_cases hless : quotes < 2
        · rw [linesContent_quote hless, show 2 - quotes = 2 - (quotes + 1) + 1 by omega]
          exact (ih hless).cons
        · rw [linesContent_escaped_quote hless]
          exact .of_ne (by decide) _
      by_cases hline : c = '\n'
      · subst hline
        exact .of_ne (by decide) _
      · obtain ⟨d, more, hshown, hd, -⟩ := shown_cons c
        rw [linesContent_shown hquote hline, hshown]
        exact .of_ne hd _

theorem shortFront_of_run {quote : Char} {bound : Nat} {cs : List Char}
    (h : (List.replicate (bound + 1) quote).isPrefixOf cs = false) : ShortFront quote bound cs cs := by
  induction cs generalizing bound with
  | nil => exact .nil
  | cons c cs ih =>
      by_cases hquote : c = quote
      · subst hquote
        cases bound with
        | zero => simp [List.replicate] at h
        | succ bound =>
            refine (ih ?_).cons
            simpa [List.replicate_succ] using h
      · exact .of_ne hquote _

/-! ## Strings on several lines -/

section

variable {fuel : Nat} {cs rest : List Char}

theorem basicLines_close {result : List Char × List Char} (h : close? '"' cs = some result) :
    basicLines (fuel + 1) cs = some result := by
  rw [basicLines.eq_def]
  dsimp only
  rw [h]

theorem basicLines_escape {c : Char} (hopen : close? '"' ('\\' :: cs) = none)
    (hblank : lineIsBlank cs = false) (h : escape? cs = some (c, rest)) :
    basicLines (fuel + 1) ('\\' :: cs) = put c (basicLines fuel rest) := by
  rw [basicLines.eq_def]
  dsimp only
  rw [hopen]
  show (if lineIsBlank cs then _ else (escape? cs).bind _) = _
  rw [hblank, h]
  rfl

theorem basicLines_char {c : Char} (hopen : close? '"' (c :: rest) = none) (hslash : c ≠ '\\')
    (h : isLineText c rest = true) :
    basicLines (fuel + 1) (c :: rest) = put c (basicLines fuel rest) := by
  rw [basicLines.eq_def]
  dsimp only
  rw [hopen]
  split
  · next hsome => cases hsome
  · next hnil => cases hnil
  · next hcons => exact absurd (List.cons.inj hcons).1 hslash
  · next hcons =>
      obtain ⟨rfl, rfl⟩ := List.cons.inj hcons
      exact if_pos h

/-- Each character is read from what is written for it; the fuel lasts. -/
theorem basicLines_linesContent (cs : List Char) {quotes : Nat} (hquotes : quotes ≤ 2)
    (hrest : rest.head? ≠ some '"')
    (h : (linesContent quotes cs ++ (List.replicate 3 '"' ++ rest)).length < fuel) :
    basicLines fuel (linesContent quotes cs ++ (List.replicate 3 '"' ++ rest)) = some (cs, rest) := by
  induction cs generalizing quotes fuel with
  | nil =>
      obtain ⟨fuel, rfl⟩ : ∃ n, fuel = n + 1 := ⟨fuel - 1, by omega⟩
      exact basicLines_close (close?_replicate hrest (Nat.zero_le 2))
  | cons c cs ih =>
      obtain ⟨fuel, rfl⟩ : ∃ n, fuel = n + 1 := ⟨fuel - 1, by omega⟩
      obtain hclose | ⟨-, hopen⟩ :=
        (shortFront_linesContent (c :: cs) hquotes).close? (Nat.sub_le 2 quotes) hrest
      · exact basicLines_close hclose
      by_cases hquote : c = '"'
      · subst hquote
        by_cases hless : quotes < 2
        · rw [linesContent_quote hless] at h hopen ⊢
          rw [List.cons_append] at h hopen ⊢
          rw [basicLines_char hopen (by decide) rfl, ih hless (by simp at h ⊢; omega)]
          rfl
        · rw [linesContent_escaped_quote hless] at h hopen ⊢
          rw [List.cons_append, List.cons_append] at h hopen ⊢
          rw [basicLines_escape hopen rfl rfl, ih (Nat.zero_le 2) (by simp at h ⊢; omega)]
          rfl
      by_cases hline : c = '\n'
      · subst hline
        have hcontent : linesContent quotes ('\n' :: cs) = '\n' :: linesContent 0 cs := rfl
        rw [hcontent, List.cons_append] at h hopen ⊢
        rw [basicLines_char hopen (by decide) rfl, ih (Nat.zero_le 2) (by simp at h ⊢; omega)]
        rfl
      · rw [linesContent_shown hquote hline, List.append_assoc] at h hopen ⊢
        obtain ⟨front, hshown, hread⟩ | ⟨hshown, -, hslash, hprintable⟩ := shown_cases c
        · rw [hshown, List.cons_append] at h hopen ⊢
          rw [basicLines_escape hopen (hread _).2 (hread _).1, ih (Nat.zero_le 2) (by simp at h ⊢; omega)]
          rfl
        · rw [hshown, List.cons_append, List.nil_append] at h hopen ⊢
          have htext : isLineText c (linesContent 0 cs ++ (List.replicate 3 '"' ++ rest)) = true := by
            rw [isLineText, hprintable]
            rfl
          rw [basicLines_char hopen hslash htext, ih (Nat.zero_le 2) (by simp at h ⊢; omega)]
          rfl

end

/-- A text without three quotes in a row is read as it is. -/
theorem literalLines_append {cs rest : List Char} (hrun : hasRun '\'' 3 cs = false)
    (htext : ∀ c ∈ cs, Scan.isPrintable c = true ∨ c = '\n') (hrest : rest.head? ≠ some '\'') :
    literalLines (cs ++ (List.replicate 3 '\'' ++ rest)) = some (cs, rest) := by
  induction cs with
  | nil =>
      have hclose : close? '\'' ('\'' :: '\'' :: '\'' :: rest) = some ([], rest) :=
        close?_replicate hrest (Nat.zero_le 2)
      show literalLines ('\'' :: '\'' :: '\'' :: rest) = _
      rw [literalLines, hclose]
  | cons c cs ih =>
      obtain ⟨hc, hcs⟩ := List.forall_mem_cons.mp htext
      obtain ⟨hfront, hlater⟩ := Bool.or_eq_false_iff.mp hrun
      have hlineText : isLineText c (cs ++ (List.replicate 3 '\'' ++ rest)) = true := by
        rcases hc with hprintable | rfl
        · rw [isLineText, hprintable]
          rfl
        · rfl
      rw [List.cons_append, literalLines, ← List.cons_append]
      obtain hclose | ⟨-, hopen⟩ := (shortFront_of_run hfront).close? (Nat.le_refl 2) hrest
      · rw [hclose]
      · rw [hopen, if_pos hlineText, ih hlater hcs]
        rfl

/-- The line end that is written after a delimiter is dropped, and no other. -/
theorem dropLineEnd_append {cs text : List Char}
    (h : '\n' ∉ cs → ∃ c more, text = c :: more ∧ Scan.isPrintable c = true) :
    dropLineEnd ((if cs.any (· == '\n') then ['\n'] else []) ++ text) = text := by
  split
  · rfl
  · next hline =>
      obtain ⟨c, more, rfl, hprintable⟩ := h (by simpa using hline)
      rw [List.nil_append]
      unfold dropLineEnd
      split
      · next hcons =>
          obtain ⟨rfl, -⟩ := List.cons.inj hcons
          exact absurd hprintable (by decide)
      · next hcons =>
          obtain ⟨rfl, -⟩ := List.cons.inj hcons
          exact absurd hprintable (by decide)
      · rfl

/-! ## Strings -/

/-- A quote opens a string on one line unless two more follow it. -/
theorem read?_basic {text : List Char} (h : ∀ more, text ≠ '"' :: '"' :: more) :
    read? ('"' :: text) = basic (text.length + 1) text := by
  unfold read?
  split
  · next hcons => exact absurd (List.cons.inj hcons).2 (h _)
  · next hcons => exact absurd (List.cons.inj hcons).1 (by decide)
  · rfl

theorem read?_literal {text : List Char} (h : ∀ more, text ≠ '\'' :: '\'' :: more) :
    read? ('\'' :: text) = literal text := by
  unfold read?
  split
  · next hcons => exact absurd (List.cons.inj hcons).1 (by decide)
  · next hcons => exact absurd (List.cons.inj hcons).2 (h _)
  · rfl

theorem read?_writeBasic (cs : List Char) {rest : List Char} (hrest : rest.head? ≠ some '"') :
    read? (writeBasic cs ++ rest) = some (cs, rest) := by
  have hwritten : writeBasic cs ++ rest = '"' :: (cs.flatMap shown ++ '"' :: rest) := by
    simp [writeBasic]
    rfl
  rw [hwritten, read?_basic, basic_shown cs rest (Nat.lt_succ_self _)]
  intro more hmore
  cases cs with
  | nil => exact hrest (by rw [(List.cons.inj hmore).2]; rfl)
  | cons c cs =>
      obtain ⟨d, front, hshown, hquote, -⟩ := shown_cons c
      rw [List.flatMap_cons, hshown] at hmore
      exact hquote (List.cons.inj hmore).1

theorem read?_writeLines (cs : List Char) {rest : List Char} (hrest : rest.head? ≠ some '"') :
    read? (writeLines cs ++ rest) = some (cs, rest) := by
  have hwritten : writeLines cs ++ rest = '"' :: '"' :: '"' ::
      ((if cs.any (· == '\n') then ['\n'] else []) ++
        (linesContent 0 cs ++ (List.replicate 3 '"' ++ rest))) := by
    simp [writeLines, openLines, List.replicate]
  rw [hwritten]
  show basicLines _ _ = _
  rw [dropLineEnd_append]
  · exact basicLines_linesContent cs (Nat.zero_le 2) hrest (Nat.lt_succ_self _)
  · intro hline
    cases cs with
    | nil => exact ⟨'"', _, rfl, by decide⟩
    | cons c cs =>
        by_cases hquote : c = '"'
        · subst hquote
          exact ⟨'"', _, rfl, by decide⟩
        · obtain ⟨d, front, hshown, -, hprintable⟩ := shown_cons c
          have hc : c ≠ '\n' := fun hsame => hline (by simp [hsame])
          rw [linesContent_shown hquote hc, hshown]
          exact ⟨d, _, rfl, hprintable⟩

section

variable {cs : List Char} (hcodes : cs.any needsCode = false)
include hcodes

theorem printable_of_not_codes : ∀ c ∈ cs, Scan.isPrintable c = true ∨ c = '\n' := by
  intro c hc
  by_cases hline : c = '\n'
  · exact .inr hline
  · exact .inl (isPrintable_of_not_needsCode (by simpa using List.any_eq_false.mp hcodes c hc) hline)

theorem read?_quoted (hsome : cs ≠ []) (hline : cs.any (· == '\n') = false)
    (hquote : cs.any (· == '\'') = false) (rest : List Char) :
    read? ('\'' :: cs ++ ['\''] ++ rest) = some (cs, rest) := by
  have hwritten : '\'' :: cs ++ ['\''] ++ rest = '\'' :: (cs ++ '\'' :: rest) := by simp
  have hcs : ∀ c ∈ cs, c ≠ '\'' ∧ Scan.isPrintable c = true := by
    intro c hc
    have hc' : c ≠ '\n' := by simpa using List.any_eq_false.mp hline c hc
    exact ⟨by simpa using List.any_eq_false.mp hquote c hc,
      (printable_of_not_codes hcodes c hc).resolve_right hc'⟩
  rw [hwritten, read?_literal, literal_append hcs]
  intro more hmore
  obtain ⟨c, cs, rfl⟩ := List.exists_cons_of_ne_nil hsome
  exact (hcs c List.mem_cons_self).1 (List.cons.inj hmore).1

theorem read?_literalLines (hrun : hasRun '\'' 3 cs = false) {rest : List Char}
    (hrest : rest.head? ≠ some '\'') :
    read? (openLines '\'' cs ++ cs ++ List.replicate 3 '\'' ++ rest) = some (cs, rest) := by
  have hwritten : openLines '\'' cs ++ cs ++ List.replicate 3 '\'' ++ rest = '\'' :: '\'' :: '\'' ::
      ((if cs.any (· == '\n') then ['\n'] else []) ++ (cs ++ (List.replicate 3 '\'' ++ rest))) := by
    simp [openLines, List.replicate]
  rw [hwritten]
  show literalLines _ = _
  rw [dropLineEnd_append, literalLines_append hrun (printable_of_not_codes hcodes) hrest]
  intro hline
  cases cs with
  | nil => exact ⟨'\'', _, rfl, by decide⟩
  | cons c cs =>
      have hc : c ≠ '\n' := fun hsame => hline (by simp [hsame])
      exact ⟨c, _, rfl, (printable_of_not_codes hcodes c List.mem_cons_self).resolve_right hc⟩

end

/-- What is written begins with a quote. -/
theorem write_cons (cs : List Char) :
    ∃ quote more, (quote = '"' ∨ quote = '\'') ∧ write cs = quote :: more := by
  unfold write
  dsimp only
  split
  · exact ⟨'"', _, .inl rfl, rfl⟩
  split
  · exact ⟨'\'', _, .inr rfl, rfl⟩
  split
  · exact ⟨'"', _, .inl rfl, rfl⟩
  split
  · exact ⟨'\'', _, .inr rfl, rfl⟩
  split
  · exact ⟨'"', _, .inl rfl, rfl⟩
  · exact ⟨'"', _, .inl rfl, rfl⟩

/-- **Every string is read back** from what is written for it, whatever follows but a quote. -/
theorem read?_write (cs : List Char) {rest : List Char} (hdouble : rest.head? ≠ some '"')
    (hsingle : rest.head? ≠ some '\'') : read? (write cs ++ rest) = some (cs, rest) := by
  unfold write
  dsimp only
  split
  · exact read?_writeBasic cs hdouble
  · next hbasic =>
      have hsome : cs ≠ [] := by
        rintro rfl
        exact hbasic rfl
      split
      · next hquoted =>
          simp only [Bool.and_eq_true, Bool.not_eq_true'] at hquoted
          obtain ⟨⟨hcodes, hline⟩, hquote⟩ := hquoted
          exact read?_quoted hcodes hsome hline hquote rest
      split
      · exact read?_writeLines cs hdouble
      split
      · next hliteral =>
          simp only [Bool.and_eq_true, Bool.not_eq_true'] at hliteral
          exact read?_literalLines hliteral.1 hliteral.2 hsingle
      split
      · exact read?_writeLines cs hdouble
      · exact read?_writeBasic cs hdouble

end RegionGateway.Toml.StringText
