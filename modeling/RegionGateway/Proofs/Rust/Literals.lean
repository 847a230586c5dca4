import Mathlib.Tactic.Common
import RegionGateway.Toml.StringText

/-!
# String literals in Rust

What a string literal denotes: the characters up to the first quote that is not escaped, with escapes
replaced and line ends normalized. Some characters stand for themselves (`IsPlain`); text that is put
between quotes as it is denotes itself if it has such characters only (`read_plain`), and in no other case
(`plain_of_read`).
-/

namespace RegionGateway.Rust.Literal

open Toml.StringText (hexValue? ofCode?)

/-! ## Reading -/

/-- The character of an escape of one character. -/
def named? : Char → Option Char
  | 'n' => some '\n'
  | 'r' => some '\r'
  | 't' => some '\t'
  | '0' => some '\x00'
  | '\\' => some '\\'
  | '\'' => some '\''
  | '"' => some '"'
  | _ => none

/-- The ASCII character with a code in hexadecimal digits. -/
def ofAscii? (digits : List Char) : Option Char := (ofCode? digits).filter (·.toNat < 0x80)

/-- A hexadecimal digit, or an underscore between digits. -/
def isCodePart (c : Char) : Bool := (hexValue? c).isSome || c == '_'

/-- The character with a code in one to six hexadecimal digits; underscores may follow a digit. -/
def ofUnicode? (digits : List Char) : Option Char :=
  let hex := digits.filter (· != '_')
  if digits.head? = some '_' ∨ hex = [] ∨ 6 < hex.length then none else ofCode? hex

/-- White space that is passed over after the escaped end of a line. -/
def isPassedOver (c : Char) : Bool := c == ' ' || c == '\t' || c == '\n' || c == '\r'

/-- What an escape stands for and how many characters it takes, its backslash not counted. -/
def escape? : List Char → Option (List Char × Nat)
  | 'x' :: a :: b :: _ => (ofAscii? [a, b]).map fun c => ([c], 3)
  | 'u' :: '{' :: cs =>
    let digits := cs.takeWhile isCodePart
    if cs[digits.length]? = some '}' then (ofUnicode? digits).map fun c => ([c], digits.length + 3)
    else none
  | '\n' :: cs => some ([], 1 + (cs.takeWhile isPassedOver).length)
  | '\r' :: '\n' :: cs => some ([], 2 + (cs.takeWhile isPassedOver).length)
  | c :: _ => (named? c).map fun d => ([d], 1)
  | [] => none

/-- What a literal denotes and what follows it, given the text after its opening quote without some
characters that are read already. -/
def read : Nat → List Char → Option (List Char × List Char)
  | _, [] => none
  | skip + 1, _ :: cs => read skip cs
  | 0, c :: cs =>
    if c = '"' then some ([], cs)
    else if c = '\\' then
      (escape? cs).bind fun (value, width) => (read width cs).map fun (more, rest) => (value ++ more, rest)
    else if c = '\r' then
      -- the end of a line is read as a line feed, and a carriage return is refused anywhere else
      if cs.head? = some '\n' then read 0 cs else none
    else (read 0 cs).map fun (more, rest) => (c :: more, rest)

/-- What two literals with a comma between them denote. -/
def pair? : List Char → Option (String × String)
  | '"' :: cs =>
    match read 0 cs with
    | some (first, ',' :: ' ' :: '"' :: cs) =>
      (read 0 cs).map fun (second, _) => (String.ofList first, String.ofList second)
    | _ => none
  | _ => none

/-! ## Plain characters -/

/-- A character that stands for itself. -/
def IsPlain (c : Char) : Prop := c ≠ '"' ∧ c ≠ '\\' ∧ c ≠ '\r'

instance (c : Char) : Decidable (IsPlain c) := inferInstanceAs (Decidable (_ ∧ _ ∧ _))

theorem read_plain {cs : List Char} (h : ∀ c ∈ cs, IsPlain c) (rest : List Char) :
    read 0 (cs ++ '"' :: rest) = some (cs, rest) := by
  induction cs with
  | nil => rfl
  | cons c cs ih =>
      obtain ⟨⟨hquote, hslash, hreturn⟩, hcs⟩ := List.forall_mem_cons.mp h
      rw [List.cons_append, read, if_neg hquote, if_neg hslash, if_neg hreturn, ih hcs]
      rfl

/-! ## No other characters -/

theorem not_mem_take_takeWhile {p : Char → Bool} {c : Char} (h : p c = false) (cs : List Char) :
    c ∉ cs.take (cs.takeWhile p).length := by
  rw [← List.prefix_iff_eq_take.mp (List.takeWhile_prefix p)]
  intro hmem
  have hall := List.all_eq_true.mp (List.all_takeWhile (p := p) (l := cs)) c hmem
  exact absurd hall (by simp [h])

theorem hexValue?_quote : hexValue? '"' = none := by decide

theorem quote_not_mem_of_ofAscii? {a b c : Char} (h : ofAscii? [a, b] = some c) : '"' ∉ [a, b] := by
  intro hmem
  have hvalues : [a, b].mapM hexValue? = none := by
    simp only [List.mem_cons, List.not_mem_nil, or_false] at hmem
    rcases hmem with rfl | rfl
    · simp [hexValue?_quote]
    · cases ha : hexValue? a with
      | none => simp [ha]
      | some value => simp [ha, hexValue?_quote]
  have hcode : ofCode? [a, b] = none := by
    rw [ofCode?, hvalues]
    rfl
  rw [ofAscii?, hcode] at h
  cases h

/-- An escape is not longer than what it stands for, and it takes a quote only if it stands for one. -/
theorem escape?_eq_some {cs value : List Char} {width : Nat} (h : escape? cs = some (value, width)) :
    value.length ≤ (cs.take width).length ∧ (value = ['"'] ∨ '"' ∉ cs.take width) := by
  unfold escape? at h
  split at h
  · next a b cs =>
      simp only [Option.map_eq_some_iff, Prod.mk.injEq] at h
      obtain ⟨c, hc, rfl, rfl⟩ := h
      have hdigits := quote_not_mem_of_ofAscii? hc
      exact ⟨by simp, .inr (by simpa using hdigits)⟩
  · next cs =>
      dsimp only at h
      split at h
      · next hclosed =>
          simp only [Option.map_eq_some_iff, Prod.mk.injEq] at h
          obtain ⟨c, -, rfl, rfl⟩ := h
          have hdigits := not_mem_take_takeWhile (p := isCodePart) (c := '"') (by decide) cs
          refine ⟨by simp, .inr ?_⟩
          rw [List.take_succ_cons, List.take_succ_cons, List.take_add_one, hclosed]
          simp [hdigits]
      · cases h
  · next cs =>
      cases h
      have hpassed := not_mem_take_takeWhile (p := isPassedOver) (c := '"') (by decide) cs
      exact ⟨Nat.zero_le _, .inr (by simp [Nat.add_comm 1, hpassed])⟩
  · next cs =>
      cases h
      have hpassed := not_mem_take_takeWhile (p := isPassedOver) (c := '"') (by decide) cs
      exact ⟨Nat.zero_le _, .inr (by simp [Nat.add_comm 2, hpassed])⟩
  · next c cs _ _ _ _ =>
      simp only [Option.map_eq_some_iff, Prod.mk.injEq] at h
      obtain ⟨d, hd, rfl, rfl⟩ := h
      refine ⟨by simp, ?_⟩
      by_cases hquote : c = '"'
      · subst hquote
        cases hd
        exact .inl rfl
      · exact .inr (by simpa using Ne.symm hquote)
  · cases h

/-- How a literal ends: at the first quote, its value being shorter than what is written or the same; or
behind a quote, which stands in the value before the place where it is written. -/
inductive Ends (cs value rest : List Char) : Prop
  | first (content) (written : cs = content ++ '"' :: rest) (clean : '"' ∉ content)
      (value : value.length < content.length ∨ value = content ∧ ∀ c ∈ content, IsPlain c)
  | later (k) (value : value[k]? = some '"') (clean : '"' ∉ cs.take (k + 1))

namespace Ends

variable {cs value rest : List Char}

theorem cons {c : Char} (hc : IsPlain c) (h : Ends cs value rest) : Ends (c :: cs) (c :: value) rest := by
  have hquote : '"' ≠ c := hc.1.symm
  cases h with
  | first content hwritten hclean hvalue =>
      refine .first (c :: content) (by rw [hwritten]; rfl) (by simp [hquote, hclean]) ?_
      rcases hvalue with hshort | ⟨rfl, hplain⟩
      · exact .inl (Nat.succ_lt_succ hshort)
      · exact .inr ⟨rfl, List.forall_mem_cons.mpr ⟨hc, hplain⟩⟩
  | later k hvalue hclean =>
      exact .later (k + 1) hvalue (by simp [hquote, hclean])

/-- What is read as less than it is. -/
theorem shrink (written part : List Char) (hclean : '"' ∉ written) (hshort : part.length < written.length)
    (h : Ends cs value rest) : Ends (written ++ cs) (part ++ value) rest := by
  cases h with
  | first content hcs hcontent hvalue =>
      refine .first (written ++ content) (by rw [hcs, List.append_assoc])
        (by simp [hclean, hcontent]) (.inl ?_)
      rw [List.length_append, List.length_append]
      rcases hvalue with hvalue | ⟨rfl, -⟩
      · omega
      · omega
  | later k hvalue hcs =>
      refine .later (part.length + k) (by rwa [List.getElem?_append_right (by omega),
        Nat.add_sub_cancel_left]) ?_
      rw [List.take_append, List.mem_append, not_or]
      refine ⟨fun hmem => hclean (List.mem_of_mem_take hmem), fun hmem => hcs ?_⟩
      exact List.take_subset_take_left cs (by omega) hmem

end Ends

theorem ends_of_read {cs value rest : List Char} {skip : Nat} (h : read skip cs = some (value, rest)) :
    Ends (cs.drop skip) value rest := by
  induction cs generalizing skip value with
  | nil => cases skip <;> cases h
  | cons c cs ih =>
      cases skip with
      | succ skip => exact ih h
      | zero =>
          rw [List.drop_zero]
          unfold read at h
          split at h
          · next hquote =>
              cases h
              exact .first [] (by rw [hquote]; rfl) List.not_mem_nil (.inr ⟨rfl, by simp⟩)
          · next hquote =>
            split at h
            · next hslash =>
                subst hslash
                simp only [Option.bind_eq_some_iff, Option.map_eq_some_iff, Prod.mk.injEq] at h
                obtain ⟨⟨part, width⟩, hescape, ⟨more, _⟩, hmore, rfl, rfl⟩ := h
                obtain ⟨hshort, rfl | hclean⟩ := escape?_eq_some hescape
                · exact .later 0 rfl (by simp)
                · have hmore := (ih hmore).shrink ('\\' :: cs.take width) part (by simp [hclean])
                    (Nat.lt_succ_of_le hshort)
                  rwa [List.cons_append, List.take_append_drop] at hmore
            · next hslash =>
              split at h
              · next hreturn =>
                  subst hreturn
                  split at h
                  · exact (ih h).shrink ['\r'] [] (by simp) (by simp)
                  · cases h
              · next hreturn =>
                  simp only [Option.map_eq_some_iff, Prod.mk.injEq] at h
                  obtain ⟨⟨more, _⟩, hmore, rfl, rfl⟩ := h
                  exact (ih hmore).cons ⟨hquote, hslash, hreturn⟩

/-- What denotes itself has plain characters only, and the literal ends where it does. -/
theorem plain_of_read {cs tail rest : List Char} (h : read 0 (cs ++ '"' :: tail) = some (cs, rest)) :
    (∀ c ∈ cs, IsPlain c) ∧ rest = tail := by
  cases ends_of_read h with
  | first content hwritten hclean hvalue =>
      have hlength : content.length ≤ cs.length := by
        rcases List.append_eq_append_iff.mp hwritten with ⟨more, rfl, hmore⟩ | ⟨more, rfl, -⟩
        · cases more with
          | nil => simp
          | cons c more =>
              obtain rfl := (List.cons.inj hmore).1
              exact absurd (by simp) hclean
        · simp
      rcases hvalue with hshort | ⟨rfl, hplain⟩
      · exact absurd hlength (Nat.not_le_of_lt hshort)
      · exact ⟨hplain, (List.cons.inj (List.append_cancel_left hwritten)).2.symm⟩
  | later k hvalue hclean =>
      obtain ⟨hk, -⟩ := List.getElem?_eq_some_iff.mp hvalue
      refine absurd (List.mem_of_getElem? (i := k) ?_) hclean
      rw [List.drop_zero, List.getElem?_take_of_lt (Nat.lt_succ_self k), List.getElem?_append_left hk, hvalue]

/-- Two literals between which there is a comma denote the two texts that stand in them as they are, exactly
if both texts have plain characters only. -/
theorem pair?_eq_some (first second after : String) :
    pair? ("\"" ++ first ++ "\", \"" ++ second ++ "\"" ++ after).toList = some (first, second) ↔
      (∀ c ∈ first.toList, IsPlain c) ∧ ∀ c ∈ second.toList, IsPlain c := by
  have htext : ("\"" ++ first ++ "\", \"" ++ second ++ "\"" ++ after).toList =
      '"' :: (first.toList ++ '"' :: ',' :: ' ' :: '"' :: (second.toList ++ '"' :: after.toList)) := by
    simp [String.toList_append]
  rw [htext]
  constructor
  · intro h
    simp only [pair?] at h
    split at h
    · next value cs hfirst =>
        simp only [Option.map_eq_some_iff, Prod.mk.injEq] at h
        obtain ⟨⟨more, rest⟩, hsecond, hvalue, hmore⟩ := h
        obtain rfl : value = first.toList := by rw [← hvalue, String.toList_ofList]
        obtain rfl : more = second.toList := by rw [← hmore, String.toList_ofList]
        obtain ⟨hplain, hrest⟩ := plain_of_read hfirst
        simp only [List.cons.injEq, true_and] at hrest
        subst hrest
        exact ⟨hplain, (plain_of_read hsecond).1⟩
    · cases h
  · rintro ⟨hfirst, hsecond⟩
    simp only [pair?, read_plain hfirst, read_plain hsecond, Option.map_some, String.ofList_toList]

end RegionGateway.Rust.Literal
