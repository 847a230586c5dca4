import RegionGateway.Proofs.Json.CompactText
import RegionGateway.Proofs.Json.Strings

/-!
# A compact text is one line

The text that is sent for a value has no newline in it: inside strings newlines stand as escapes, and
the compact layout puts nothing between the tokens (`newline_not_mem_chars`). In UTF-8 the byte of a
newline stands for nothing else (`newline_not_mem_encode`), so the bytes have none either.
-/

namespace RegionGateway

/-- The newline is a byte of no other character. -/
theorem Utf8.newline_not_mem_encode {cs : List Char} (h : '\n' ∉ cs) : 0x0A ∉ encode cs := by
  intro hmem
  obtain ⟨c, hc, hbyte⟩ := List.mem_flatMap.mp hmem
  by_cases hascii : c.toNat < 0x80
  · rw [encodeChar_ascii hascii, List.mem_singleton] at hbyte
    have hnewline : c = '\n' := by
      rw [← StringText.ofNat_byte hascii, ← hbyte]
      rfl
    exact h (hnewline ▸ hc)
  · have hle := le_of_mem_encodeChar (by omega) _ hbyte
    exact absurd hle (by decide)

namespace Json

/-! ## Scalars -/

theorem newline_not_mem_decimal (n : Nat) : '\n' ∉ decimal n := fun h =>
  absurd (NumberText.isDigit_of_mem_decimal h) (by decide)

theorem newline_not_mem_decimalInt (i : Int) : '\n' ∉ decimalInt i := by
  unfold decimalInt
  split <;> simp [newline_not_mem_decimal]

/-- The text of a number is made of digits, signs, a point and an `e`. -/
theorem newline_not_mem_text (x : Binary64) : '\n' ∉ x.text := by
  have hsign : '\n' ∉ if x.negative then ['-'] else [] := by split <;> decide
  unfold Binary64.text
  generalize (if x.negative then ['-'] else []) = sign at hsign
  obtain ⟨d, k⟩ := x.shortest
  have hdigits := newline_not_mem_decimal d
  have htake : ∀ n, '\n' ∉ (decimal d).take n := fun n h => hdigits (List.mem_of_mem_take h)
  have hdrop : ∀ n, '\n' ∉ (decimal d).drop n := fun n h => hdigits (List.mem_of_mem_drop h)
  simp only
  generalize ((decimal d).length : Int) + k = point
  -- one case for each layout
  split
  · simp [hsign]
  split
  · have hexponent := newline_not_mem_decimal (point - 1).natAbs
    have hmark : '\n' ∉ ['e', if point - 1 < 0 then '-' else '+'] := by split <;> decide
    have hfraction : '\n' ∉ if (decimal d).length = 1 then [] else '.' :: (decimal d).drop 1 := by
      split
      · decide
      · exact List.not_mem_cons_of_ne_of_not_mem (by decide) (hdrop 1)
    simp only [List.mem_append, not_or]
    exact ⟨hsign, ⟨⟨htake 1, hfraction⟩, hmark⟩, hexponent⟩
  split
  · simp [hsign, hdigits, List.mem_replicate]
  split
  · simp [hsign, htake, hdrop]
  · simp [hsign, hdigits, List.mem_replicate]

/-- A newline inside a string is escaped. -/
theorem newline_not_mem_escaped (c : Char) : '\n' ∉ escaped c := by
  rcases StringText.escaped_cases c with ⟨e, hc, he, -⟩ | ⟨hc, hcontrol⟩ | ⟨hc, -, -, hlow⟩
  · rw [hc]
    have hne : e ≠ '\n' := by
      rintro rfl
      cases he
    simp [hne.symm]
  · have hdigits : ∀ n < 0x20, '\n' ∉ hexPair n := by decide
    rw [hc]
    simp [hdigits c.toNat hcontrol]
  · have hne : c ≠ '\n' := by
      rintro rfl
      exact absurd hlow (by decide)
    rw [hc]
    simp [hne.symm]

theorem newline_not_mem_quote (s : String) : '\n' ∉ quote s := by
  have hcontent : '\n' ∉ s.toList.flatMap escaped := by
    intro h
    obtain ⟨c, -, hc⟩ := List.mem_flatMap.mp h
    exact newline_not_mem_escaped c hc
  simp [quote, hcontent]

/-! ## Values -/

mutual
theorem newline_not_mem_chars (depth : Nat) : ∀ value : Json, '\n' ∉ value.chars .compact depth
  | .null | .bool true | .bool false | .arr [] | .obj [] => by simp [chars]
  | .int i => by
      rw [chars]
      exact newline_not_mem_decimalInt i
  | .float x => by
      rw [chars]
      exact newline_not_mem_text x
  | .str s => by
      rw [chars]
      exact newline_not_mem_quote s
  | .arr (item :: items) => by
      simp [chars, newline_not_mem_chars (depth + 1) item,
        newline_not_mem_itemChars (depth + 1) items]
  | .obj (member :: members) => by
      simp [chars, newline_not_mem_quote, newline_not_mem_chars (depth + 1) member.2,
        newline_not_mem_memberChars (depth + 1) members]

theorem newline_not_mem_itemChars (depth : Nat) : ∀ items : List Json,
    '\n' ∉ itemChars .compact depth items
  | [] => by simp [itemChars]
  | item :: items => by
      simp [itemChars, newline_not_mem_chars depth item, newline_not_mem_itemChars depth items]

theorem newline_not_mem_memberChars (depth : Nat) : ∀ members : List (String × Json),
    '\n' ∉ memberChars .compact depth members
  | [] => by simp [memberChars]
  | member :: members => by
      simp [memberChars, newline_not_mem_quote, newline_not_mem_chars depth member.2,
        newline_not_mem_memberChars depth members]
end

/-- The text of a value is one line. -/
theorem newline_not_mem_bytes (value : Json) : 0x0A ∉ value.bytes := by
  rw [bytes_eq]
  exact Utf8.newline_not_mem_encode (newline_not_mem_chars 0 value)

end Json

end RegionGateway
