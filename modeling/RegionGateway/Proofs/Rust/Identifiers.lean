import RegionGateway.Proofs.Rust.Names

/-!
# Legal identifiers

An identifier is a plain one, made of letters, digits and underscores and no reserved word, or the raw
form of a plain one. The identifier of a declared name is legal unless the name is one of the reserved
words that `keywords` leaves out (`isIdentifier_ident_iff`). A name that is put before it is legal as
long as nothing raw follows (`isIdentifier_append_ident_iff`).
-/

namespace RegionGateway.Rust

/-- The strict keywords of the language, edition 2021. -/
def strictKeywords : List String := [
  "as", "async", "await", "break", "const", "continue", "crate", "dyn", "else", "enum", "extern",
  "false", "fn", "for", "if", "impl", "in", "let", "loop", "match", "mod", "move", "mut", "pub", "ref",
  "return", "self", "Self", "static", "struct", "super", "trait", "true", "type", "unsafe", "use",
  "where", "while"]

/-- The keywords that the language reserves for future use. -/
def reservedKeywords : List String := [
  "abstract", "become", "box", "do", "final", "macro", "override", "priv", "try", "typeof", "unsized",
  "virtual", "yield"]

/-- The words that are no plain identifiers. -/
def reservedWords : List String := strictKeywords ++ reservedKeywords

/-- The words that have no raw form. -/
def pathWords : List String := ["self", "super", "crate", "Self"]

/-- The reserved words that `keywords` leaves out. -/
def unlistedWords : List String := [
  "abstract", "become", "do", "final", "macro", "override", "priv", "try", "typeof", "unsized", "virtual"]

theorem mem_reservedWords {word : String} :
    word ∈ reservedWords ↔ word ∈ keywords ∨ word ∈ unlistedWords := by
  have hlisted : reservedWords ⊆ keywords ++ unlistedWords := by decide +kernel
  have hreserved : keywords ++ unlistedWords ⊆ reservedWords := by decide +kernel
  rw [← List.mem_append]
  exact ⟨fun h => hlisted h, fun h => hreserved h⟩

/-- Letters, digits and underscores that do not start with a digit and are not an underscore alone. -/
def IsPlain (text : String) : Prop :=
  IsWord text ∧ text.toList.head?.any Char.isDigit = false ∧ text ≠ "_"

instance (text : String) : Decidable (IsPlain text) := inferInstanceAs (Decidable (_ ∧ _ ∧ _))

/-- An identifier that the language accepts: a plain one that is no reserved word, or the raw form of a
word that has one. -/
def IsIdentifier (text : String) : Prop :=
  (IsPlain text ∧ text ∉ reservedWords) ∨
    ∃ word, text = "r#" ++ word ∧ IsPlain word ∧ word ∉ pathWords

/-- A declared name: an ASCII letter, followed by ASCII letters, digits and underscores. -/
def IsDeclaredName (name : String) : Prop :=
  ∃ first rest, name.toList = first :: rest ∧ first.isAlpha = true ∧ ∀ c ∈ rest, isWordChar c = true

theorem not_isWord_raw (word : String) : ¬ IsWord ("r#" ++ word) := by
  rintro ⟨-, hchars⟩
  rw [String.toList_append] at hchars
  exact absurd (hchars '#' (by simp)) (by decide)

theorem not_isIdentifier_underscore : ¬ IsIdentifier "_" := by
  rintro (⟨⟨-, -, hne⟩, -⟩ | ⟨word, heq, -, -⟩)
  · exact hne rfl
  · have hchars := congrArg String.toList heq
    rw [String.toList_append] at hchars
    exact absurd (List.cons.inj hchars).1 (by decide)

/-- A plain text is an identifier unless it is reserved. -/
theorem IsPlain.isIdentifier_iff {text : String} (h : IsPlain text) :
    IsIdentifier text ↔ text ∉ reservedWords := by
  refine ⟨?_, fun hfree => .inl ⟨h, hfree⟩⟩
  rintro (⟨-, hfree⟩ | ⟨word, rfl, -, -⟩)
  · exact hfree
  · exact absurd h.1 (not_isWord_raw word)

/-- A raw form after anything else is no identifier. -/
theorem not_isIdentifier_append_raw {start : String} (h : IsWord start) (word : String) :
    ¬ IsIdentifier (start ++ ("r#" ++ word)) := by
  rintro (⟨⟨hword, -⟩, -⟩ | ⟨other, heq, -, -⟩)
  · exact ne_hash_of_word (hword.2 '#' (by simp [String.toList_append])) rfl
  · -- the second character is a hash, but that of `start` is none, nor is the mark of the raw form
    have hsecond : (start ++ ("r#" ++ word)).toList[1]? = some '#' := by
      rw [heq, String.toList_append]
      rfl
    obtain ⟨hne, hchars⟩ := h
    rw [String.toList_append] at hsecond
    cases hstart : start.toList with
    | nil => exact hne hstart
    | cons c cs =>
        rw [hstart] at hsecond hchars
        cases cs with
        | nil => simp [String.toList_append] at hsecond
        | cons d cs =>
            obtain rfl : d = '#' := by simpa using hsecond
            exact ne_hash_of_word (hchars '#' (by simp)) rfl

/-! ## Plain texts -/

theorem isPlain_of_letter {text : String} (h : IsWord text)
    (hletter : text.toList.head?.any Char.isAlpha = true) : IsPlain text := by
  obtain ⟨c, cs, hcs, hchar, -⟩ := h.exists_cons
  have hc : c.isAlpha = true := by simpa [hcs] using hletter
  have hother : c.isDigit = false ∧ c ≠ '_' :=
    forall_wordChar (p := fun c => c.isAlpha = true → c.isDigit = false ∧ c ≠ '_')
      (by decide +kernel) hchar hc
  refine ⟨h, by simpa [hcs] using hother.1, ?_⟩
  rintro rfl
  exact hother.2 (List.cons.inj hcs).1.symm

theorem isPlain_upper {text : String} (h : IsWord text)
    (hletter : text.toList.head?.any Char.isAlpha = true) : IsPlain (Text.upper text) := by
  obtain ⟨c, cs, hcs, hchar, -⟩ := h.exists_cons
  have hc : c.isAlpha = true := by simpa [hcs] using hletter
  refine isPlain_of_letter (isWord_upper h) ?_
  rw [Text.upper, String.toList_ofList, upper_word h.2, hcs]
  exact forall_wordChar (p := fun c => c.isAlpha = true → c.toUpper.isAlpha = true) (by decide +kernel)
    hchar hc

theorem IsPlain.append {a b : String} (ha : IsPlain a) (hb : b.toList.all isWordChar = true) :
    IsPlain (a ++ b) := by
  obtain ⟨hword, hdigit, hne⟩ := ha
  obtain ⟨c, cs, hcs⟩ := List.exists_cons_of_ne_nil hword.1
  refine ⟨isWord_append hword hb, ?_, fun h => hne ?_⟩
  · simpa [String.toList_append, hcs] using hdigit
  · have hchars := congrArg String.toList h
    rw [String.toList_append, hcs, List.cons_append] at hchars
    obtain ⟨rfl, hrest⟩ := List.cons.inj hchars
    rw [String.ext_iff, hcs, (List.append_eq_nil_iff.mp hrest).1]
    rfl

/-- No reserved word has an underscore. -/
theorem IsPlain.isIdentifier_of_underscore {text : String} (h : IsPlain text) (hmem : '_' ∈ text.toList) :
    IsIdentifier text := by
  have hnone : ∀ word ∈ reservedWords, '_' ∉ word.toList := by decide +kernel
  exact h.isIdentifier_iff.mpr fun hreserved => hnone text hreserved hmem

/-! ## Identifiers of declared names -/

section

variable {name : String} (h : IsDeclaredName name)
include h

theorem IsDeclaredName.isWord : IsWord name := by
  obtain ⟨first, rest, hname, hfirst, hrest⟩ := h
  rw [IsWord, hname]
  exact ⟨List.cons_ne_nil _ _,
    List.forall_mem_cons.mpr ⟨by simp [isWordChar, Char.isAlphanum, hfirst], hrest⟩⟩

theorem IsDeclaredName.startsWithLetter : (snakeCase name).toList.head?.any Char.isAlpha = true := by
  have hword := h.isWord
  obtain ⟨first, rest, hname, hfirst, -⟩ := h
  have hchar : isWordChar first = true := hword.2 first (by simp [hname])
  rw [snakeCase_cons hname hchar]
  exact forall_wordChar (p := fun c => c.isAlpha = true → c.toLower.isAlpha = true) (by decide +kernel)
    hchar hfirst

theorem IsDeclaredName.isPlain_snakeCase : IsPlain (snakeCase name) :=
  isPlain_of_letter (isWord_snakeCase h.isWord) h.startsWithLetter

/-- How the identifier of a declared name is written. -/
theorem IsDeclaredName.ident_eq : ident name =
    if snakeCase name ∈ pathWords then snakeCase name ++ "_"
    else if snakeCase name ∈ keywords then "r#" ++ snakeCase name else snakeCase name :=
  sanitize_word h.isPlain_snakeCase.1

/-- The identifier of a declared name is legal unless the name is a reserved word that is overlooked. -/
theorem isIdentifier_ident_iff : IsIdentifier (ident name) ↔ snakeCase name ∉ unlistedWords := by
  have hplain := h.isPlain_snakeCase
  have hlisted : ∀ word ∈ keywords, word ∉ unlistedWords := by decide +kernel
  rw [h.ident_eq]
  split
  · next hpath =>
      have hkeywords : pathWords ⊆ keywords := by decide +kernel
      refine iff_of_true ?_ (hlisted _ (hkeywords hpath))
      exact (hplain.append (b := "_") (by decide)).isIdentifier_of_underscore (by simp)
  · next hpath =>
      split
      · next hkeyword =>
          exact iff_of_true (.inr ⟨_, rfl, hplain, hpath⟩) (hlisted _ hkeyword)
      · next hfree =>
          rw [hplain.isIdentifier_iff, mem_reservedWords, or_iff_right hfree]

/-- What is put before the identifier of a declared name makes it illegal if the identifier is raw. -/
theorem isIdentifier_append_ident_iff {start : String} (hstart : IsPlain start)
    (hmem : '_' ∈ start.toList) : IsIdentifier (start ++ ident name) ↔
      (snakeCase name ∈ keywords → snakeCase name ∈ pathWords) := by
  have hplain := hstart.append (List.all_eq_true.mpr h.isPlain_snakeCase.1.2)
  have hword : ∀ b : String, '_' ∈ (start ++ b).toList := fun b => by
    rw [String.toList_append]
    exact List.mem_append_left _ hmem
  rw [h.ident_eq]
  split
  · next hpath =>
      refine iff_of_true ?_ fun _ => hpath
      rw [← String.append_assoc]
      exact (hplain.append (b := "_") (by decide)).isIdentifier_of_underscore (by simp)
  · next hpath =>
      split
      · next hkeyword =>
          exact iff_of_false (not_isIdentifier_append_raw hstart.1 _) fun hlegal => hpath (hlegal hkeyword)
      · next hfree =>
          exact iff_of_true (hplain.isIdentifier_of_underscore (hword _)) fun h => absurd h hfree

/-- The identifier in upper case is legal before an ending with an underscore. -/
theorem isIdentifier_upper_ident {ending : String} (hending : ending.toList.all isWordChar = true)
    (hmem : '_' ∈ ending.toList) :
    IsIdentifier (Text.upper (withoutRawMark (ident name)) ++ ending) := by
  have hword := isWord_snakeCase h.isWord
  have hletter : (withoutRawMark (ident name)).toList.head?.any Char.isAlpha = true := by
    obtain ⟨c, cs, hcs⟩ := List.exists_cons_of_ne_nil hword.1
    have hc : c.isAlpha = true := by simpa [hcs] using h.startsWithLetter
    rw [h.ident_eq]
    split
    · rw [withoutRawMark_word (isWord_append hword (by decide)), String.toList_append, hcs]
      exact hc
    · split
      · rw [withoutRawMark_raw hword, hcs]
        exact hc
      · rw [withoutRawMark_word hword, hcs]
        exact hc
  have hplain := isPlain_upper (isWord_withoutRawMark (isName_ident h.isWord)) hletter
  refine (hplain.append hending).isIdentifier_of_underscore ?_
  rw [String.toList_append]
  exact List.mem_append_right _ hmem

end

end RegionGateway.Rust
