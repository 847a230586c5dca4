import RegionGateway.Proofs.Rust.CaseConversion
import RegionGateway.Proofs.Text.LetterCase

/-!
# Snake case as a normal form

Words that begin with a small letter and go on come back from Pascal case, however many of them follow one
another (`snakeCase_pascalCase_join`). Of an ASCII name, snake case changes nothing but that letters are in
lower case and that underscores stand between characters that are none (`Spaced`); so the result is in snake
case already (`snakeCase_snakeCase`).
-/

namespace RegionGateway.Rust

/-! ## Words that come back -/

/-- What a word may go on with: lower-case letters and digits. -/
def continuesWord (c : Char) : Bool := Text.isLower c || c.isDigit

/-- A word of a name: a small letter, followed by at least one lower-case letter or digit. -/
def IsNameWord (word : List Char) : Prop :=
  ∃ first rest, word = first :: rest ∧ first.isLower = true ∧ rest ≠ [] ∧ ∀ c ∈ rest, continuesWord c = true

theorem stays_of_continuesWord {c : Char} (h : continuesWord c = true) :
    Text.isUpper c = false ∧ Text.lowerChar c = [c] := by
  rcases Bool.or_eq_true_iff.mp h with hlower | hdigit
  · exact Text.stays_of_isLower hlower
  · exact IsSmall.stays (.inr hdigit)

/-- A capital that follows begins a word. -/
theorem startsWord_of_continuesWord {prev c : Char} (h : continuesWord prev = true)
    (hc : Text.isUpper c = true) (rest : List Char) : startsWord prev c rest = true := by
  have hbefore : (Text.isLower prev || prev.isDigit) = true := h
  simp [startsWord, hc, hbefore]

theorem continuesWord_getLastD {cs : List Char} (hne : cs ≠ []) (h : ∀ c ∈ cs, continuesWord c = true)
    (prev : Char) : continuesWord (cs.getLastD prev) = true := by
  rw [List.getLastD_eq_getLast?, List.getLast?_eq_some_getLast hne]
  exact h _ (List.getLast_mem hne)

/-- Words after a word come back with an underscore before each. The induction is on the words: what a word
ends with shows the start of the next one. -/
theorem snakeCaseAfter_words {words : List (List Char)} (h : ∀ word ∈ words, IsNameWord word) {prev : Char}
    (hprev : continuesWord prev = true) :
    snakeCaseAfter prev (words.flatMap (List.modifyHead Char.toUpper)) = words.flatMap ('_' :: ·) := by
  induction words generalizing prev with
  | nil => rfl
  | cons word words ih =>
      obtain ⟨hword, hwords⟩ := List.forall_mem_cons.mp h
      obtain ⟨first, rest, rfl, hfirst, hne, hrest⟩ := hword
      have hcapital : Text.isUpper first.toUpper = true := (IsSmall.capital (.inl hfirst)).1.trans hfirst
      -- the word has a second character, so its capital is not what the next capital stands behind
      rw [List.flatMap_cons, List.modifyHead_cons, List.cons_append,
        snakeCaseAfter_capital (.inl hfirst) fun c hc => stays_of_continuesWord (hrest c hc),
        if_pos (startsWord_of_continuesWord hprev hcapital _), ih hwords (continuesWord_getLastD hne hrest _)]
      rfl

theorem IsNameWord.underscore_not_mem {word : List Char} (h : IsNameWord word) : '_' ∉ word := by
  obtain ⟨first, rest, rfl, hfirst, -, hrest⟩ := h
  have hunderscore : ¬ continuesWord '_' = true := by decide +kernel
  rintro hmem
  rcases List.mem_cons.mp hmem with rfl | hmem
  · exact absurd hfirst (by decide)
  · exact hunderscore (hrest _ hmem)

theorem splitChars_join {words : List String} (hne : words ≠ []) (h : ∀ word ∈ words, '_' ∉ word.toList) :
    Text.splitChars (· == '_') (Text.join "_" words).toList = words.map String.toList := by
  have hsplit : (Text.splitChars (· == '_') (Text.join "_" words).toList).map String.ofList = words :=
    Text.split_join hne h
  have hsame : String.toList ∘ String.ofList = id := funext fun _ => String.toList_ofList
  have hchars := congrArg (List.map String.toList) hsplit
  rwa [List.map_map, hsame, List.map_id] at hchars

/-- Words with underscores between them come back from Pascal case. -/
theorem snakeCase_pascalCase_join {words : List String} (h : ∀ word ∈ words, IsNameWord word.toList) :
    snakeCase (pascalCase (Text.join "_" words)) = Text.join "_" words := by
  cases words with
  | nil => decide +kernel
  | cons word words =>
      have hsplit := splitChars_join (List.cons_ne_nil word words) fun word hword =>
        (h word hword).underscore_not_mem
      have hheads : ∀ chars ∈ Text.splitChars (· == '_') (Text.join "_" (word :: words)).toList,
          ∀ c ∈ chars.head?, isWordChar c = true := by
        rw [hsplit, List.forall_mem_map]
        intro word hword c hc
        obtain ⟨first, rest, hchars, hfirst, -⟩ := h word hword
        rw [hchars] at hc
        cases hc
        exact IsSmall.isWordChar (.inl hfirst)
      obtain ⟨hword, hwords⟩ := List.forall_mem_cons.mp h
      obtain ⟨first, rest, hchars, hfirst, hne, hrest⟩ := hword
      have hlater := snakeCaseAfter_words (List.forall_mem_map.mpr hwords)
        (continuesWord_getLastD hne hrest first.toUpper)
      rw [← String.toList_inj, snakeCase, String.toList_ofList, toList_pascalCase hheads, hsplit,
        Text.toList_join_cons, List.map_cons, List.flatMap_cons, hchars, List.modifyHead_cons, List.cons_append,
        snakeCaseChars, (IsSmall.capital (.inl hfirst)).2,
        snakeCaseAfter_append fun c hc => stays_of_continuesWord (hrest c hc), hlater, List.flatMap_map]
      rfl

/-! ## Names of ASCII characters -/

/-- The second list is the first in lower case, with underscores put in between; `last` is what is written
before it. Nothing is put in at the front, and no underscore is put in beside another one. -/
inductive Spaced : Option Char → List Char → List Char → Prop
  | done {last} : Spaced last [] []
  | next {last c cs written} : Spaced (some c.toLower) cs written → Spaced last (c :: cs) (c.toLower :: written)
  | gap {last c cs written} : last ≠ '_' → c.toLower ≠ '_' → Spaced (some c.toLower) cs written →
      Spaced (some last) (c :: cs) ('_' :: c.toLower :: written)

/-- Nothing but ASCII characters. -/
def IsAscii (cs : List Char) : Prop := ∀ c ∈ cs, c.toNat < 0x80

instance : DecidablePred IsAscii := fun cs =>
  decidable_of_iff (cs.all (·.toNat < 0x80) = true) (by simp [IsAscii])

theorem lowerChar_ascii {c : Char} (h : c.toNat < 0x80) : Text.lowerChar c = [c.toLower] := by
  rw [Text.lowerChar, if_pos h]

/-- Lower case is ASCII again, has no capital and is kept; no other character becomes an underscore. -/
theorem toLower_ascii {c : Char} (h : c.toNat < 0x80) :
    c.toLower.toNat < 0x80 ∧ Text.isUpper c.toLower = false ∧ c.toLower.toLower = c.toLower ∧
      (c.toLower = '_' → c = '_') :=
  Text.forall_ascii (p := fun c => c.toLower.toNat < 0x80 ∧ Text.isUpper c.toLower = false ∧
    c.toLower.toLower = c.toLower ∧ (c.toLower = '_' → c = '_')) (by decide +kernel) h

/-- No word starts before an underscore or behind one. -/
theorem ne_underscore_of_startsWord {prev c : Char} {rest : List Char} (h : startsWord prev c rest = true) :
    prev ≠ '_' ∧ c ≠ '_' := by
  have hunderscore : Text.isUpper '_' = false ∧ Text.isLower '_' = false := by decide +kernel
  simp only [startsWord, Bool.and_eq_true, Bool.or_eq_true] at h
  obtain ⟨hc, hprev⟩ := h
  constructor
  · rintro rfl
    simp [hunderscore, show '_'.isDigit = false by decide] at hprev
  · rintro rfl
    simp [hunderscore] at hc

theorem spaced_snakeCaseAfter {prev : Char} {cs : List Char} (hprev : prev.toNat < 0x80) (h : IsAscii cs) :
    Spaced (some prev.toLower) cs (snakeCaseAfter prev cs) := by
  induction cs generalizing prev with
  | nil => exact .done
  | cons c cs ih =>
      obtain ⟨hc, hcs⟩ := List.forall_mem_cons.mp h
      rw [snakeCaseAfter, lowerChar_ascii hc]
      have hlater := ih hc hcs
      -- an underscore is put in only where a word starts
      split
      · next hstarts =>
          obtain ⟨hbefore, hbehind⟩ := ne_underscore_of_startsWord hstarts
          exact .gap (mt (toLower_ascii hprev).2.2.2 hbefore) (mt (toLower_ascii hc).2.2.2 hbehind) hlater
      · exact .next hlater

theorem spaced_snakeCase {name : String} (h : IsAscii name.toList) :
    Spaced none name.toList (snakeCase name).toList := by
  rw [snakeCase, String.toList_ofList]
  cases hname : name.toList with
  | nil => exact .done
  | cons c cs =>
      rw [hname] at h
      obtain ⟨hc, hcs⟩ := List.forall_mem_cons.mp h
      rw [snakeCaseChars, lowerChar_ascii hc]
      exact .next (spaced_snakeCaseAfter hc hcs)

/-- What is spaced is ASCII and has no capitals. -/
theorem Spaced.lower {last : Option Char} {cs written : List Char} (h : Spaced last cs written)
    (hcs : IsAscii cs) : ∀ c ∈ written, Text.isUpper c = false ∧ Text.lowerChar c = [c] := by
  have hlower : ∀ {c : Char}, c.toNat < 0x80 →
      Text.isUpper c.toLower = false ∧ Text.lowerChar c.toLower = [c.toLower] := fun hc => by
    obtain ⟨hascii, hupper, hkept, -⟩ := toLower_ascii hc
    exact ⟨hupper, (lowerChar_ascii hascii).trans (by rw [hkept])⟩
  induction h with
  | done => exact List.forall_mem_nil _
  | next _ ih =>
      obtain ⟨hc, hrest⟩ := List.forall_mem_cons.mp hcs
      exact List.forall_mem_cons.mpr ⟨hlower hc, ih hrest⟩
  | gap _ _ _ ih =>
      obtain ⟨hc, hrest⟩ := List.forall_mem_cons.mp hcs
      exact List.forall_mem_cons.mpr ⟨by decide +kernel, List.forall_mem_cons.mpr ⟨hlower hc, ih hrest⟩⟩

theorem snakeCase_snakeCase {name : String} (h : IsAscii name.toList) :
    snakeCase (snakeCase name) = snakeCase name :=
  snakeCase_of_stays ((spaced_snakeCase h).lower h)

/-- **Snake case is a normal form.** Names of words that begin with a small letter and go on come back from
Pascal case. Of an ASCII name nothing is changed but that its letters are in lower case and that underscores
stand between some of its characters, none at the front and none beside another underscore. There is no
capital in the result, and it is in snake case already. -/
theorem snakeCase_normal_form :
    (∀ words : List String, (∀ word ∈ words, IsNameWord word.toList) →
      snakeCase (pascalCase (Text.join "_" words)) = Text.join "_" words) ∧
    ∀ name : String, IsAscii name.toList →
      Spaced none name.toList (snakeCase name).toList ∧
        (∀ c ∈ (snakeCase name).toList, Text.isUpper c = false) ∧
        snakeCase (snakeCase name) = snakeCase name := by
  refine ⟨fun words => snakeCase_pascalCase_join, fun name h => ⟨spaced_snakeCase h, fun c hc => ?_, ?_⟩⟩
  · exact ((spaced_snakeCase h).lower h c hc).1
  · exact snakeCase_snakeCase h

theorem snakeCase_normal_form_acronyms :
    (∀ word ∈ ["vm2", "console", "x1\u00E9"], IsNameWord word.toList) ∧
      snakeCase (pascalCase "vm2_console_x1\u00E9") = "vm2_console_x1\u00E9" ∧
      IsAscii "_GPUDriver2-SetURL_".toList ∧ snakeCase "_GPUDriver2-SetURL_" = "_gpu_driver2-set_url_" ∧
      Spaced none "_GPUDriver2-SetURL_".toList "_gpu_driver2-set_url_".toList ∧
      snakeCase "_gpu_driver2-set_url_" = "_gpu_driver2-set_url_" := by
  have hwords : ∀ word ∈ ["vm2", "console", "x1\u00E9"], IsNameWord word.toList := by
    simp only [List.forall_mem_cons, List.not_mem_nil, false_imp_iff, implies_true, and_true]
    exact ⟨⟨'v', ['m', '2'], by decide, by decide, by decide, List.all_eq_true.mp (by decide +kernel)⟩,
      ⟨'c', "onsole".toList, by decide, by decide, by decide, List.all_eq_true.mp (by decide +kernel)⟩,
      ⟨'x', ['1', '\u00E9'], by decide, by decide, by decide, List.all_eq_true.mp (by decide +kernel)⟩⟩
  have hascii : IsAscii "_GPUDriver2-SetURL_".toList := by decide
  have hsnake : snakeCase "_GPUDriver2-SetURL_" = "_gpu_driver2-set_url_" := by decide +kernel
  have hjoin : Text.join "_" ["vm2", "console", "x1\u00E9"] = "vm2_console_x1\u00E9" := by decide +kernel
  obtain ⟨hback, hnormal⟩ := snakeCase_normal_form
  have hname := hback _ hwords
  rw [hjoin] at hname
  obtain ⟨hspaced, -, hagain⟩ := hnormal "_GPUDriver2-SetURL_" hascii
  rw [hsnake] at hspaced hagain
  exact ⟨hwords, hname, hascii, hsnake, hspaced, hagain⟩

end RegionGateway.Rust
