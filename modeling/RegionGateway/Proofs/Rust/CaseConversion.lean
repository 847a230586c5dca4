import Mathlib.Data.List.Chain
import RegionGateway.Proofs.Rust.Identifiers
import RegionGateway.Proofs.Text.Parts

/-!
# Case conversion

In Pascal case the words of a name follow one another, the first character of each in upper case. Snake case
finds a word again where a capital follows a small letter or a digit, or stands before a small letter
(`startsWord_iff`). A lower-case name comes back from Pascal case if that is so at every word after the first
(`snakeCase_pascalCase_iff`), and its identifier comes back then and for the three names that are like
identifiers of keywords (`ident_pascalCase_iff`).
-/

namespace RegionGateway.Rust

/-! ## Pascal case -/

theorem toList_capitalize {word : String} (h : ∀ c ∈ word.toList.head?, isWordChar c = true) :
    (capitalize word).toList = word.toList.modifyHead Char.toUpper := by
  unfold capitalize
  split
  · next hword => rw [hword]; rfl
  · next c cs hword =>
      rw [hword] at h ⊢
      rw [String.toList_ofList, (upperChar_of_word (h c rfl)).1]
      rfl

/-- In Pascal case the words of a name follow one another, each with its first character in upper case. -/
theorem toList_pascalCase {name : String}
    (h : ∀ word ∈ Text.splitChars (· == '_') name.toList, ∀ c ∈ word.head?, isWordChar c = true) :
    (pascalCase name).toList =
      (Text.splitChars (· == '_') name.toList).flatMap (List.modifyHead Char.toUpper) := by
  rw [pascalCase, Text.toList_join_empty, List.flatMap_map, Text.split, List.flatMap_map]
  refine List.flatMap_congr fun word hword => ?_
  rw [toList_capitalize (by rw [String.toList_ofList]; exact h word hword), String.toList_ofList]

/-- The words of a name of word characters begin with such characters. -/
theorem head?_words {name : String} (h : ∀ c ∈ name.toList, isWordChar c = true) :
    ∀ word ∈ Text.splitChars (· == '_') name.toList, ∀ c ∈ word.head?, isWordChar c = true :=
  fun _ hword c hc => h c (Text.mem_of_mem_splitChars hword (List.mem_of_mem_head? hc))

theorem pascalCase_word {name : String} (h : ∀ c ∈ name.toList, isWordChar c = true) :
    ∀ c ∈ (pascalCase name).toList, isWordChar c = true := by
  rw [toList_pascalCase (head?_words h)]
  intro c hc
  obtain ⟨word, hword, hc⟩ := List.mem_flatMap.mp hc
  have hchars : ∀ d ∈ word, isWordChar d = true := fun d hd => h d (Text.mem_of_mem_splitChars hword hd)
  cases word with
  | nil => cases hc
  | cons d ds =>
      obtain ⟨hd, hds⟩ := List.forall_mem_cons.mp hchars
      rcases List.mem_cons.mp hc with rfl | hc
      · exact (upperChar_of_word hd).2
      · exact hds c hc

/-! ## Words of lower-case names -/

/-- Small letters and digits. -/
def IsSmall (c : Char) : Prop := c.isLower = true ∨ c.isDigit = true

instance : DecidablePred IsSmall := fun _ => inferInstanceAs (Decidable (_ ∨ _))

/-- A lower-case name: a small letter, followed by small letters, digits and underscores. -/
def IsSnakeName (name : String) : Prop :=
  name.toList.head?.any Char.isLower = true ∧ ∀ c ∈ name.toList, IsSmall c ∨ c = '_'

instance : DecidablePred IsSnakeName := fun name =>
  decidable_of_iff ((name.toList.head?.any Char.isLower &&
    name.toList.all fun c => decide (IsSmall c ∨ c = '_')) = true) (by simp [IsSnakeName])

/-- Where a word follows another, the next word can be told from Pascal case: it starts with a letter, and the
capital follows a small letter or a digit or stands before a small letter. -/
def Apart (word next : List Char) : Prop :=
  next.head?.any Char.isLower = true ∧ (2 ≤ word.length ∨ next[1]?.any Char.isLower = true)

instance : DecidableRel Apart := fun _ _ => inferInstanceAs (Decidable (_ ∧ _))

/-- Every word of a name can be told from the one before it. -/
def KeepsWords (name : String) : Prop := (Text.splitChars (· == '_') name.toList).IsChain Apart

instance : DecidablePred KeepsWords := fun _ => inferInstanceAs (Decidable (List.IsChain _ _))

section

variable {c : Char} (h : IsSmall c)
include h

theorem IsSmall.isWordChar : isWordChar c = true := by
  show (c.isUpper || c.isLower || c.isDigit || c == '_') = true
  rcases h with h | h
  · simp [h]
  · simp [h]

/-- A property of ASCII characters is one of all small letters and digits. -/
theorem IsSmall.forall {p : Char → Prop} (hp : ∀ n < 0x80, IsSmall (Char.ofNat n) → p (Char.ofNat n)) : p c :=
  forall_wordChar (p := fun c => IsSmall c → p c) (fun n hn _ => hp n hn) h.isWordChar h

theorem IsSmall.stays : Text.isUpper c = false ∧ Text.lowerChar c = [c] :=
  h.forall (p := fun c => Text.isUpper c = false ∧ Text.lowerChar c = [c]) (by decide +kernel)

theorem IsSmall.capital : Text.isUpper c.toUpper = c.isLower ∧ Text.lowerChar c.toUpper = [c] :=
  h.forall (p := fun c => Text.isUpper c.toUpper = c.isLower ∧ Text.lowerChar c.toUpper = [c])
    (by decide +kernel)

theorem IsSmall.isLower : Text.isLower c = c.isLower ∧ Text.isLower c.toUpper = false :=
  h.forall (p := fun c => Text.isLower c = c.isLower ∧ Text.isLower c.toUpper = false) (by decide +kernel)

end

theorem isDigit_toUpper_of_isLower {c : Char} (h : c.isLower = true) : c.toUpper.isDigit = false :=
  IsSmall.forall (p := fun c => c.isLower = true → c.toUpper.isDigit = false) (.inl h) (by decide +kernel) h

/-- Characters that are no capitals stay as they are. -/
theorem snakeCaseAfter_append {cs : List Char} (h : ∀ c ∈ cs, Text.isUpper c = false ∧ Text.lowerChar c = [c])
    (prev : Char) (rest : List Char) :
    snakeCaseAfter prev (cs ++ rest) = cs ++ snakeCaseAfter (cs.getLastD prev) rest := by
  induction cs generalizing prev with
  | nil => rfl
  | cons c cs ih =>
      obtain ⟨⟨hupper, hlower⟩, hcs⟩ := List.forall_mem_cons.mp h
      have hstarts : startsWord prev c (cs ++ rest) = false := by simp [startsWord, hupper]
      rw [List.cons_append, snakeCaseAfter, hstarts, hlower, ih hcs, List.getLastD_cons]
      rfl

/-- A name without capitals is in snake case. -/
theorem snakeCase_of_stays {name : String}
    (h : ∀ c ∈ name.toList, Text.isUpper c = false ∧ Text.lowerChar c = [c]) : snakeCase name = name := by
  rw [← String.toList_inj, snakeCase, String.toList_ofList]
  cases hname : name.toList with
  | nil => rfl
  | cons first rest =>
      rw [hname] at h
      obtain ⟨hfirst, hrest⟩ := List.forall_mem_cons.mp h
      have hlater := snakeCaseAfter_append hrest first []
      rw [List.append_nil, snakeCaseAfter, List.append_nil] at hlater
      rw [snakeCaseChars, hfirst.2, hlater]
      rfl

/-- A word in Pascal case comes back, after an underscore if its start is seen. -/
theorem snakeCaseAfter_capital {c : Char} {cs : List Char} (hc : IsSmall c)
    (hcs : ∀ d ∈ cs, Text.isUpper d = false ∧ Text.lowerChar d = [d]) (prev : Char) (rest : List Char) :
    snakeCaseAfter prev (c.toUpper :: (cs ++ rest)) =
      (if startsWord prev c.toUpper (cs ++ rest) then ['_'] else []) ++ c :: cs ++
        snakeCaseAfter (cs.getLastD c.toUpper) rest := by
  rw [snakeCaseAfter, hc.capital.2, snakeCaseAfter_append hcs]
  split <;> simp

section

variable {words : List (List Char)} (hwords : ∀ word ∈ words, ∀ c ∈ word, IsSmall c)
include hwords

/-- Words in Pascal case do not begin with a small letter. -/
theorem isLower_head?_words :
    ((words.flatMap (List.modifyHead Char.toUpper)).head?.map Text.isLower).getD false = false := by
  induction words with
  | nil => rfl
  | cons word words ih =>
      obtain ⟨hword, hrest⟩ := List.forall_mem_cons.mp hwords
      cases word with
      | nil => exact ih hrest
      | cons c cs => exact (hword c List.mem_cons_self).isLower.2

/-- The start of a word is seen exactly if the word can be told from the one before it. -/
theorem startsWord_iff {c d : Char} {cs ds : List Char} (hc : c.isLower = true) (hcs : ∀ e ∈ cs, IsSmall e)
    (hnext : ∀ e ∈ d :: ds, IsSmall e) :
    startsWord (cs.getLastD c.toUpper) d.toUpper (ds ++ words.flatMap (List.modifyHead Char.toUpper)) = true ↔
      Apart (c :: cs) (d :: ds) := by
  obtain ⟨hd, hds⟩ := List.forall_mem_cons.mp hnext
  have hfirst : IsSmall c := .inl hc
  unfold startsWord Apart
  rw [hd.capital.1]
  cases cs with
  | nil =>
      -- the capital of a single letter is before the word
      have hprev : ([] : List Char).getLastD c.toUpper = c.toUpper := rfl
      rw [hprev, hfirst.isLower.2, hfirst.capital.1, hc, isDigit_toUpper_of_isLower hc]
      cases ds with
      | nil => simp [isLower_head?_words hwords]
      | cons e es => simp [(hds e List.mem_cons_self).isLower.1]
  | cons e es =>
      have hlast : IsSmall ((e :: es).getLastD c.toUpper) := by
        rw [List.getLastD_eq_getLast?, List.getLast?_eq_some_getLast (List.cons_ne_nil e es)]
        exact hcs _ (List.getLast_mem _)
      have hbefore : (Text.isLower ((e :: es).getLastD c.toUpper) ||
          ((e :: es).getLastD c.toUpper).isDigit) = true := by
        rw [hlast.isLower.1, Bool.or_eq_true]
        exact hlast
      rw [hbefore]
      simp

/-- At most one underscore comes back for every word. -/
theorem length_snakeCaseAfter_le (prev : Char) :
    (snakeCaseAfter prev (words.flatMap (List.modifyHead Char.toUpper))).length ≤
      (words.flatMap ('_' :: ·)).length := by
  induction words generalizing prev with
  | nil => exact Nat.le_refl 0
  | cons word words ih =>
      obtain ⟨hword, hrest⟩ := List.forall_mem_cons.mp hwords
      cases word with
      | nil => exact Nat.le_succ_of_le (ih hrest prev)
      | cons c cs =>
          obtain ⟨hc, hcs⟩ := List.forall_mem_cons.mp hword
          have hlater := ih hrest (cs.getLastD c.toUpper)
          have hgap : (if startsWord prev c.toUpper (cs ++ words.flatMap (List.modifyHead Char.toUpper))
              then ['_'] else []).length ≤ 1 := by
            split <;> simp
          simp only [List.flatMap_cons, List.modifyHead_cons, List.cons_append]
          rw [snakeCaseAfter_capital hc fun d hd => (hcs d hd).stays]
          simp only [List.length_append, List.length_cons]
          omega

/-- The words after the first one come back from Pascal case exactly if each can be told from the one before
it. The induction is on the words: where the start of one is not seen, an underscore is missing for good. -/
theorem snakeCaseAfter_words_iff {c : Char} {cs : List Char} (hc : c.isLower = true)
    (hcs : ∀ d ∈ cs, IsSmall d) :
    snakeCaseAfter (cs.getLastD c.toUpper) (words.flatMap (List.modifyHead Char.toUpper)) =
      words.flatMap ('_' :: ·) ↔ ((c :: cs) :: words).IsChain Apart := by
  induction words generalizing c cs with
  | nil => exact iff_of_true rfl (.singleton _)
  | cons word words ih =>
      obtain ⟨hword, hrest⟩ := List.forall_mem_cons.mp hwords
      rw [List.isChain_cons_cons]
      have hshort := length_snakeCaseAfter_le hrest
      cases word with
      | nil =>
          refine iff_of_false ?_ fun h => absurd h.1.1 (by simp)
          intro hsame
          have hlength := congrArg List.length hsame
          have hlater := hshort (cs.getLastD c.toUpper)
          rw [List.flatMap_cons, List.flatMap_cons, List.modifyHead_nil, List.nil_append, List.length_append]
            at hlength
          simp only [List.length_singleton] at hlength
          omega
      | cons d ds =>
          have hstarts := startsWord_iff hrest hc hcs hword
          simp only [List.flatMap_cons, List.modifyHead_cons, List.cons_append]
          obtain ⟨hsmall, hds⟩ := List.forall_mem_cons.mp hword
          rw [snakeCaseAfter_capital hsmall fun e he => (hds e he).stays]
          by_cases hapart : Apart (c :: cs) (d :: ds)
          · have hd : d.isLower = true := hapart.1
            rw [if_pos (hstarts.mpr hapart), and_iff_right hapart, ← ih hrest hd hds]
            simp only [List.cons_append, List.nil_append, List.cons.injEq, true_and, List.append_cancel_left_eq]
          · rw [if_neg (mt hstarts.mp hapart)]
            refine iff_of_false ?_ fun h => hapart h.1
            intro hsame
            have hlength := congrArg List.length hsame
            have hlater := hshort (ds.getLastD d.toUpper)
            simp only [List.length_append, List.length_cons, List.length_nil] at hlength
            omega

end

/-! ## Names that come back from Pascal case -/

section

variable {name : String} (h : IsSnakeName name)
include h

theorem IsSnakeName.exists_cons : ∃ first rest, name.toList = first :: rest ∧ first.isLower = true ∧
    ∀ c ∈ rest, IsSmall c ∨ c = '_' := by
  obtain ⟨hfirst, hchars⟩ := h
  cases hname : name.toList with
  | nil => simp [hname] at hfirst
  | cons first rest =>
      rw [hname] at hfirst hchars
      exact ⟨first, rest, rfl, hfirst, (List.forall_mem_cons.mp hchars).2⟩

/-- A lower-case name is made of words of small letters and digits, the first of which starts with a letter. -/
theorem IsSnakeName.exists_words : ∃ c cs words, Text.splitChars (· == '_') name.toList = (c :: cs) :: words ∧
    c.isLower = true ∧ (∀ d ∈ cs, IsSmall d) ∧ (∀ word ∈ words, ∀ d ∈ word, IsSmall d) ∧
      name.toList = c :: (cs ++ words.flatMap ('_' :: ·)) := by
  obtain ⟨first, rest, hname, hfirst, hrest⟩ := h.exists_cons
  obtain ⟨word, words, hsplit, hjoin⟩ := Text.exists_splitChars '_' name.toList
  have hsmall : ∀ word ∈ Text.splitChars (· == '_') name.toList, ∀ d ∈ word, IsSmall d := by
    intro word hword d hd
    have hmem := Text.mem_of_mem_splitChars hword hd
    have hother : (d == '_') = false := Text.not_mem_of_mem_splitChars hword d hd
    rw [hname] at hmem
    rcases List.mem_cons.mp hmem with rfl | hmem
    · exact .inl hfirst
    · exact (hrest d hmem).resolve_right (beq_eq_false_iff_ne.mp hother)
  rw [hsplit] at hsmall
  obtain ⟨hword, hwords⟩ := List.forall_mem_cons.mp hsmall
  cases word with
  | nil =>
      -- the name does not begin with an underscore
      rw [hname] at hjoin
      cases words with
      | nil => cases hjoin
      | cons next words =>
          obtain ⟨rfl, -⟩ := List.cons.inj hjoin
          exact absurd hfirst (by decide)
  | cons c cs =>
      rw [hname, List.cons_append] at hjoin
      obtain ⟨rfl, hlater⟩ := List.cons.inj hjoin
      exact ⟨first, cs, words, hsplit, hfirst, (List.forall_mem_cons.mp hword).2, hwords,
        hname.trans (congrArg (first :: ·) hlater)⟩

theorem IsSnakeName.isWord : IsWord name := by
  obtain ⟨first, rest, hname, hfirst, hrest⟩ := h.exists_cons
  rw [IsWord, hname]
  refine ⟨List.cons_ne_nil _ _, List.forall_mem_cons.mpr ⟨IsSmall.isWordChar (.inl hfirst), ?_⟩⟩
  intro c hc
  rcases hrest c hc with hsmall | rfl
  · exact hsmall.isWordChar
  · decide

/-- A lower-case name is in snake case. -/
theorem IsSnakeName.snakeCase_eq : snakeCase name = name := by
  obtain ⟨first, rest, hname, hfirst, hrest⟩ := h.exists_cons
  refine snakeCase_of_stays fun c hc => ?_
  rw [hname] at hc
  rcases List.mem_cons.mp hc with rfl | hc
  · exact IsSmall.stays (.inl hfirst)
  · rcases hrest c hc with hsmall | rfl
    · exact hsmall.stays
    · decide +kernel

/-- A lower-case name comes back from Pascal case exactly if each of its words can be told from the one before
it. -/
theorem snakeCase_pascalCase_iff : snakeCase (pascalCase name) = name ↔ KeepsWords name := by
  have hchars := h.isWord.2
  obtain ⟨c, cs, words, hsplit, hc, hcs, hwords, hname⟩ := h.exists_words
  rw [KeepsWords, hsplit, ← snakeCaseAfter_words_iff hwords hc hcs, ← String.toList_inj, snakeCase,
    String.toList_ofList, toList_pascalCase (head?_words hchars), hsplit, hname, List.flatMap_cons,
    List.modifyHead_cons, List.cons_append, snakeCaseChars, (IsSmall.capital (.inl hc)).2,
    snakeCaseAfter_append fun d hd => (hcs d hd).stays]
  simp only [List.singleton_append, List.cons.injEq, true_and, List.append_cancel_left_eq]

theorem IsSnakeName.isWord_pascalCase : IsWord (pascalCase name) := by
  have hchars := h.isWord.2
  obtain ⟨c, cs, words, hsplit, -, -, -, -⟩ := h.exists_words
  refine ⟨?_, pascalCase_word hchars⟩
  rw [toList_pascalCase (head?_words hchars), hsplit]
  exact List.cons_ne_nil _ _

end

/-- Words with the same identifier are the same, unless one is a keyword and the other looks like its
identifier. -/
theorem eq_of_sanitize_eq {a b : String} (ha : IsWord a) (hb : IsWord b) (h : sanitize a = sanitize b) :
    a = b ∨ (a ∈ pathWords ∧ b = a ++ "_") ∨ b ∈ pathWords := by
  have hform : ∀ {word : String}, IsWord word → sanitize word =
      if word ∈ pathWords then word ++ "_" else if word ∈ keywords then "r#" ++ word else word := sanitize_word
  rw [hform ha, hform hb] at h
  by_cases hbpath : b ∈ pathWords
  · exact .inr (.inr hbpath)
  · rw [if_neg hbpath] at h
    by_cases hapath : a ∈ pathWords
    · rw [if_pos hapath] at h
      split at h
      · exact absurd (h ▸ isWord_append ha (by decide)) (not_isWord_raw b)
      · exact .inr (.inl ⟨hapath, h.symm⟩)
    · rw [if_neg hapath] at h
      left
      split at h
      · split at h
        · exact (String.append_right_inj "r#").mp h
        · exact absurd (h ▸ hb) (not_isWord_raw a)
      · split at h
        · exact absurd (h ▸ ha) (not_isWord_raw b)
        · exact h

/-- The identifier of a lower-case name comes back from Pascal case exactly if the name does, or looks like the
identifier of a keyword. -/
theorem ident_pascalCase_iff {name : String} (h : IsSnakeName name) : ident (pascalCase name) = ident name ↔
    KeepsWords name ∨ name ∈ ["self_", "super_", "crate_"] := by
  have hcapital : name.toList.head? ≠ some 'S' := by
    intro hhead
    have hfirst := h.1
    rw [hhead] at hfirst
    exact absurd hfirst (by decide)
  rw [ident, ident, h.snakeCase_eq]
  constructor
  · intro hsame
    rcases eq_of_sanitize_eq (isWord_snakeCase h.isWord_pascalCase) h.isWord hsame with
      hsame | ⟨hkeyword, hname⟩ | hkeyword
    · exact .inl ((snakeCase_pascalCase_iff h).mp hsame)
    · right
      generalize snakeCase (pascalCase name) = word at hkeyword hname
      subst hname
      simp only [pathWords, List.mem_cons, List.not_mem_nil, or_false] at hkeyword
      rcases hkeyword with rfl | rfl | rfl | rfl
      · decide
      · decide
      · decide
      · exact absurd (by decide) hcapital
    · left
      simp only [pathWords, List.mem_cons, List.not_mem_nil, or_false] at hkeyword
      rcases hkeyword with rfl | rfl | rfl | rfl
      · decide +kernel
      · decide +kernel
      · decide +kernel
      · exact absurd (by decide) hcapital
  · rintro (hkeeps | hname)
    · rw [(snakeCase_pascalCase_iff h).mpr hkeeps]
    · simp only [List.mem_cons, List.not_mem_nil, or_false] at hname
      rcases hname with rfl | rfl | rfl
      · decide +kernel
      · decide +kernel
      · decide +kernel

end RegionGateway.Rust
