import RegionGateway.Proofs.Rust.Tokens
import RegionGateway.Rust.Name

/-!
# Names made of words

Rust names are made of declared names. If these are words, the names are read as one token each
(`isName_ident`, `isWord_upper`). A name has no colon (`IsName.no_colon`), and the last segment of a path no
double colon (`localName_ne`).
-/

namespace RegionGateway.Rust

/-- A property of ASCII characters is one of all word characters. -/
theorem forall_wordChar {p : Char → Prop} (h : ∀ n < 0x80, isWordChar (Char.ofNat n) = true → p (Char.ofNat n))
    {c : Char} (hc : isWordChar c = true) : p c := by
  have hsmall : c.toNat < 0x80 := by
    have hc : (c.val ≥ 'A'.val ∧ c.val ≤ 'Z'.val : Bool) || (c.val ≥ 'a'.val && c.val ≤ 'z'.val) ||
        (c.val ≥ '0'.val && c.val ≤ '9'.val) || c == '_' := hc
    simp only [Bool.or_eq_true, Bool.and_eq_true, decide_eq_true_eq, beq_iff_eq, ge_iff_le,
      UInt32.le_iff_toNat_le] at hc
    have hn : c.toNat = c.val.toNat := rfl
    have hZ : 'Z'.val.toNat = 0x5a := rfl
    have hz : 'z'.val.toNat = 0x7a := rfl
    have h9 : '9'.val.toNat = 0x39 := rfl
    rcases hc with hc | rfl
    · omega
    · decide
  have hof : Char.ofNat c.toNat = c := Char.ofNat_toNat c
  rw [← hof] at hc ⊢
  exact h _ hsmall hc

theorem lowerChar_of_word {c : Char} (h : isWordChar c = true) :
    Text.lowerChar c = [c.toLower] ∧ isWordChar c.toLower = true :=
  forall_wordChar (p := fun c => Text.lowerChar c = [c.toLower] ∧ isWordChar c.toLower = true)
    (by decide +kernel) h

theorem upperChar_of_word {c : Char} (h : isWordChar c = true) :
    Text.upperChar c = [c.toUpper] ∧ isWordChar c.toUpper = true :=
  forall_wordChar (p := fun c => Text.upperChar c = [c.toUpper] ∧ isWordChar c.toUpper = true)
    (by decide +kernel) h

theorem identChar_of_word {c : Char} (h : isWordChar c = true) :
    c ≠ '-' ∧ (Text.isAlphanumeric c || c == '_') = true :=
  forall_wordChar (p := fun c => c ≠ '-' ∧ (Text.isAlphanumeric c || c == '_') = true)
    (by decide +kernel) h

theorem ne_hash_of_word {c : Char} (h : isWordChar c = true) : c ≠ '#' := by
  rintro rfl
  exact absurd h (by decide)

/-! ## Identifiers -/

theorem snakeCaseAfter_word {cs : List Char} (h : ∀ c ∈ cs, isWordChar c = true) (prev : Char) :
    ∀ c ∈ snakeCaseAfter prev cs, isWordChar c = true := by
  induction cs generalizing prev with
  | nil => simp [snakeCaseAfter]
  | cons d cs ih =>
      obtain ⟨hd, hcs⟩ := List.forall_mem_cons.mp h
      obtain ⟨hlower, hword⟩ := lowerChar_of_word hd
      rw [snakeCaseAfter, hlower, List.forall_mem_append]
      refine ⟨?_, ih hcs d⟩
      split
      · simp [hword, show isWordChar '_' = true by decide]
      · simp [hword]

theorem snakeCase_cons {name : String} {c : Char} {cs : List Char} (h : name.toList = c :: cs)
    (hc : isWordChar c = true) : (snakeCase name).toList = c.toLower :: snakeCaseAfter c cs := by
  rw [snakeCase, String.toList_ofList, h, snakeCaseChars, (lowerChar_of_word hc).1]
  rfl

theorem isWord_snakeCase {name : String} (h : IsWord name) : IsWord (snakeCase name) := by
  obtain ⟨c, cs, hcs, hc, hrest⟩ := h.exists_cons
  rw [IsWord, snakeCase_cons hcs hc]
  exact ⟨List.cons_ne_nil _ _,
    List.forall_mem_cons.mpr ⟨(lowerChar_of_word hc).2, snakeCaseAfter_word hrest c⟩⟩

theorem isWord_append {a b : String} (ha : IsWord a) (hb : b.toList.all isWordChar = true) :
    IsWord (a ++ b) := by
  rw [IsWord, String.toList_append, List.forall_mem_append]
  exact ⟨List.append_ne_nil_of_left_ne_nil ha.1 _, ha.2, List.all_eq_true.mp hb⟩

theorem IsWord.no_dot {text : String} (h : IsWord text) : '.' ∉ text.toList :=
  fun hmem => absurd (h.2 '.' hmem) (by decide)

theorem isWord_decimal (n : Nat) : IsWord (String.ofList (Nat.toDigits 10 n)) := by
  rw [IsWord, String.toList_ofList]
  refine ⟨Nat.toDigits_ne_nil, fun c hc => ?_⟩
  have hdigit : c.isDigit = true := Nat.isDigit_of_mem_toDigits (by decide) (by decide) hc
  simp [isWordChar, Char.isAlphanum, hdigit]

/-- A word is kept as it is, but for the keywords. -/
theorem sanitize_word {name : String} (h : IsWord name) : sanitize name =
    if name ∈ ["self", "super", "crate", "Self"] then name ++ "_"
    else if name ∈ keywords then "r#" ++ name else name := by
  have hchars : identChars name = name.toList := by
    have hmap : name.toList.map (fun c => if c = '-' then '_' else c) = name.toList := by
      conv_rhs => rw [← List.map_id name.toList]
      exact List.map_congr_left fun c hc => if_neg (identChar_of_word (h.2 c hc)).1
    rw [identChars, hmap, List.filter_eq_self]
    exact fun c hc => (identChar_of_word (h.2 c hc)).2
  unfold sanitize
  rw [hchars, String.ofList_toList]

theorem isName_sanitize {name : String} (h : IsWord name) : IsName (sanitize name) := by
  rw [sanitize_word h]
  split
  · exact ⟨name ++ "_", isWord_append h (by decide), .inl rfl⟩
  · split
    · exact ⟨name, h, .inr rfl⟩
    · exact ⟨name, h, .inl rfl⟩

/-- The identifier of a word is the word in snake case, if necessary as a raw identifier. -/
theorem isName_ident {name : String} (h : IsWord name) : IsName (ident name) :=
  isName_sanitize (isWord_snakeCase h)

/-! ## Constants -/

theorem withoutRawMarkChars_of_not_mem {cs : List Char} (h : '#' ∉ cs) : withoutRawMarkChars cs = cs := by
  unfold withoutRawMarkChars
  split
  · simp at h
  · rfl

theorem withoutRawMark_word {name : String} (h : IsWord name) : withoutRawMark name = name := by
  have hhash : '#' ∉ name.toList := fun hmem => ne_hash_of_word (h.2 _ hmem) rfl
  rw [withoutRawMark, withoutRawMarkChars_of_not_mem hhash, String.ofList_toList]

theorem withoutRawMark_raw {word : String} (h : IsWord word) : withoutRawMark ("r#" ++ word) = word := by
  have hraw : withoutRawMark ("r#" ++ word) = withoutRawMark word := by
    rw [withoutRawMark, String.toList_append]
    rfl
  rw [hraw, withoutRawMark_word h]

theorem isWord_withoutRawMark {name : String} (h : IsName name) : IsWord (withoutRawMark name) := by
  obtain ⟨word, hword, rfl | rfl⟩ := h
  · rw [withoutRawMark_word hword]
    exact hword
  · rw [withoutRawMark_raw hword]
    exact hword

theorem isName_iff {name : String} : IsName name ↔ IsWord (withoutRawMark name) ∧
    (name = withoutRawMark name ∨ name = "r#" ++ withoutRawMark name) := by
  refine ⟨fun h => ⟨isWord_withoutRawMark h, ?_⟩, fun ⟨hword, hform⟩ => ⟨_, hword, hform⟩⟩
  obtain ⟨word, hword, rfl | rfl⟩ := h
  · exact .inl (withoutRawMark_word hword).symm
  · exact .inr (congrArg _ (withoutRawMark_raw hword).symm)

instance (name : String) : Decidable (IsName name) := decidable_of_iff _ isName_iff.symm

theorem upper_word {cs : List Char} (h : ∀ c ∈ cs, isWordChar c = true) :
    cs.flatMap Text.upperChar = cs.map Char.toUpper := by
  induction cs with
  | nil => rfl
  | cons c cs ih =>
      obtain ⟨hc, hcs⟩ := List.forall_mem_cons.mp h
      rw [List.flatMap_cons, (upperChar_of_word hc).1, ih hcs]
      rfl

theorem isWord_upper {name : String} (h : IsWord name) : IsWord (Text.upper name) := by
  rw [IsWord, Text.upper, String.toList_ofList, upper_word h.2]
  refine ⟨by simpa using h.1, ?_⟩
  rw [List.forall_mem_map]
  exact fun c hc => (upperChar_of_word (h.2 c hc)).2

/-! ## Paths -/

theorem IsName.no_colon {name : String} (h : IsName name) : ':' ∉ name.toList := by
  have hword : ∀ {word : String}, IsWord word → ':' ∉ word.toList := fun hword hmem =>
    absurd (hword.2 ':' hmem) (by decide)
  obtain ⟨word, h, rfl | rfl⟩ := h
  · exact hword h
  · simpa [String.toList_append] using hword h

theorem IsName.no_dot {name : String} (h : IsName name) : '.' ∉ name.toList := by
  obtain ⟨word, hword, rfl | rfl⟩ := h
  · exact hword.no_dot
  · simpa [String.toList_append] using hword.no_dot

theorem no_colon_append {a b : String} (ha : ':' ∉ a.toList) (hb : ':' ∉ b.toList) : ':' ∉ (a ++ b).toList := by
  rw [String.toList_append, List.mem_append]
  exact not_or.mpr ⟨ha, hb⟩

/-- A path is no name without a colon. -/
theorem path_ne {name : String} (h : ':' ∉ name.toList) (module rest : String) :
    module ++ "::" ++ rest ≠ name := by
  rintro rfl
  simp [String.toList_append] at h

/-- A path whose last segment has no colon is split in one way. -/
theorem path_inj {a b x y : String} (hx : ':' ∉ x.toList) (hy : ':' ∉ y.toList)
    (h : a ++ "::" ++ x = b ++ "::" ++ y) : a = b ∧ x = y := by
  have hreversed : x.toList.reverse ++ ':' :: ':' :: a.toList.reverse =
      y.toList.reverse ++ ':' :: ':' :: b.toList.reverse := by
    simpa [String.toList_append] using congrArg (fun path : String => path.toList.reverse) h
  rw [← List.mem_reverse] at hx hy
  -- the characters before the first colon, from behind, are those of the last segment
  have hsegment : ∀ {segment rest : List Char}, ':' ∉ segment →
      (segment ++ ':' :: rest).takeWhile (· != ':') = segment := by
    intro segment rest hcolon
    have hother : ∀ c ∈ segment, (c != ':') = true := fun c hc => bne_iff_ne.mpr fun h => hcolon (h ▸ hc)
    rw [List.takeWhile_append_of_pos hother]
    simp
  have hlast : x = y := by
    have hsame := (hsegment hx).symm.trans ((congrArg _ hreversed).trans (hsegment hy))
    simpa [String.ext_iff] using hsame
  subst hlast
  exact ⟨(String.append_left_inj _).mp ((String.append_left_inj _).mp h), rfl⟩

/-- What follows the last double colon has none. -/
theorem afterDoubleColon?_idem {cs tail : List Char} (h : afterDoubleColon? cs = some tail) :
    afterDoubleColon? tail = none := by
  induction cs with
  | nil => cases h
  | cons c cs ih =>
      unfold afterDoubleColon? at h
      split at h
      · next other hother =>
          cases h
          exact ih hother
      · next hnone =>
          split at h
          · next hcolon =>
              cases h
              cases cs with
              | nil => rfl
              | cons d cs =>
                  -- the rest after the second colon has no double colon either
                  unfold afterDoubleColon? at hnone
                  split at hnone
                  · cases hnone
                  · next hrest => exact hrest
          · cases h

theorem afterDoubleColon?_append (xs ys : List Char) : afterDoubleColon? (xs ++ ':' :: ':' :: ys) ≠ none := by
  induction xs with
  | nil =>
      rw [List.nil_append]
      unfold afterDoubleColon?
      split <;> simp
  | cons x xs ih =>
      rw [List.cons_append]
      unfold afterDoubleColon?
      split
      · simp
      · next hnone => exact absurd hnone ih

/-- The last segment of a path is no path itself. -/
theorem localName_ne (path module rest : String) : localName path ≠ module ++ "::" ++ rest := by
  have hnone : afterDoubleColon? (localName path).toList = none := by
    unfold localName
    cases h : afterDoubleColon? path.toList with
    | none => simpa using h
    | some tail => simpa using afterDoubleColon?_idem h
  intro h
  rw [h] at hnone
  refine afterDoubleColon?_append module.toList rest.toList ?_
  rwa [String.toList_append, String.toList_append, List.append_assoc] at hnone

end RegionGateway.Rust
