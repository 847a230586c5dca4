import RegionGateway.Proofs.Text.Encoding

/-!
# What is read as a text

The UTF-8 reader takes nothing but the bytes of a text:

* `eq_encodeChar_of_pieces`: where it reads a character from between two characters, the bytes of that
  character stand;
* `decode?_eq_some_iff`: hence it reads characters exactly from their bytes;
* `text?_eq_some_iff`: these are the bytes that a text is stored as (`encodeChar_eq`).
-/

namespace RegionGateway.Utf8

/-! ## First bytes -/

theorem toUInt8_toNat (b : UInt8) : b.toNat.toUInt8 = b := UInt8.ofNat_toNat

/-- What a byte says from between two characters. -/
inductive FirstByte : UInt8 → Prop
  /-- It is a character. -/
  | ascii {b} : b.toNat < 0x80 → first b = ([some (Char.ofNat b.toNat)], .start) → FirstByte b
  /-- No character begins with it. -/
  | stray {b} : first b = ([none], .start) → FirstByte b
  /-- A character of two, three or four bytes begins with it. -/
  | two (lead : Nat) : 2 ≤ lead → lead < 32 → FirstByte (0xC0 + lead).toUInt8
  | three (lead : Nat) : lead < 16 → FirstByte (0xE0 + lead).toUInt8
  | four (lead : Nat) : lead < 5 → FirstByte (0xF0 + lead).toUInt8

theorem firstByte (b : UInt8) : FirstByte b := by
  have hsplit : ∀ start, start ≤ b.toNat → (start + (b.toNat - start)).toUInt8 = b := fun start h => by
    rw [Nat.add_sub_cancel' h, toUInt8_toNat]
  by_cases hascii : b.toNat < 0x80
  · exact .ascii hascii (by simp [first, hascii])
  by_cases htwo : b.toNat < 0xC2
  · exact .stray (by simp [first, hascii, htwo])
  by_cases hthree : b.toNat < 0xE0
  · exact hsplit 0xC0 (by omega) ▸ .two _ (by omega) (by omega)
  by_cases hfour : b.toNat < 0xF0
  · exact hsplit 0xE0 (by omega) ▸ .three _ (by omega)
  by_cases hlast : b.toNat < 0xF5
  · exact hsplit 0xF0 (by omega) ▸ .four _ (by omega)
  · refine .stray ?_
    rw [first, if_neg hascii, if_neg htwo, if_neg hthree, if_neg (by omega), if_neg (by omega), if_neg hfour,
      if_neg (by omega), if_neg (by omega), if_neg (by omega)]

/-! ## The machine inside a character -/

section

variable {value low high : Nat} {bs : Bytes} {c : Char} {ps : List (Option Char)}

theorem pieces_inside_other {owed : Nat} {b : UInt8} (rest : Bytes) (h : ¬ (low ≤ b.toNat ∧ b.toNat ≤ high)) :
    pieces (.inside owed value low high) (b :: rest) = none :: pieces .start (b :: rest) := by
  simp [pieces, step, h]

/-- A character that is under way ends with a byte in the window. -/
theorem exists_of_pieces_last (h : pieces (.inside 0 value low high) bs = some c :: ps) :
    ∃ b rest, bs = b :: rest ∧ (low ≤ b.toNat ∧ b.toNat ≤ high) ∧
      c = Char.ofNat (value * 64 + (b.toNat - 0x80)) ∧ pieces .start rest = ps := by
  cases bs with
  | nil => cases h
  | cons b rest =>
      by_cases hwindow : low ≤ b.toNat ∧ b.toNat ≤ high
      · rw [pieces_inside_last rest hwindow] at h
        obtain ⟨hc, hps⟩ := List.cons.inj h
        exact ⟨b, rest, rfl, hwindow, (Option.some.inj hc).symm, hps⟩
      · rw [pieces_inside_other rest hwindow] at h
        cases h

/-- A character that is under way goes on with a byte in the window. -/
theorem exists_of_pieces_more {owed : Nat} (h : pieces (.inside (owed + 1) value low high) bs = some c :: ps) :
    ∃ b rest, bs = b :: rest ∧ (low ≤ b.toNat ∧ b.toNat ≤ high) ∧
      pieces (.inside owed (value * 64 + (b.toNat - 0x80)) 0x80 0xBF) rest = some c :: ps := by
  cases bs with
  | nil => cases h
  | cons b rest =>
      by_cases hwindow : low ≤ b.toNat ∧ b.toNat ≤ high
      · rw [pieces_inside_more rest hwindow] at h
        exact ⟨b, rest, rfl, hwindow, h⟩
      · rw [pieces_inside_other rest hwindow] at h
        cases h

/-- From inside a character, something is read. -/
theorem pieces_inside_ne_nil (owed value low high : Nat) (bs : Bytes) :
    pieces (.inside owed value low high) bs ≠ [] := by
  induction bs generalizing owed value low high with
  | nil => exact List.cons_ne_nil _ _
  | cons b rest ih =>
      by_cases hwindow : low ≤ b.toNat ∧ b.toNat ≤ high
      · cases owed with
        | zero =>
            rw [pieces_inside_last rest hwindow]
            exact List.cons_ne_nil _ _
        | succ owed =>
            rw [pieces_inside_more rest hwindow]
            exact ih owed _ _ _
      · rw [pieces_inside_other rest hwindow]
        exact List.cons_ne_nil _ _

end

/-- From between two characters, nothing is read from nothing only. -/
theorem eq_nil_of_pieces {bs : Bytes} (h : pieces .start bs = []) : bs = [] := by
  cases bs with
  | nil => rfl
  | cons b rest =>
      exfalso
      rw [pieces_start_cons] at h
      obtain ⟨hfirst, hrest⟩ := List.append_eq_nil_iff.mp h
      cases firstByte b with
      | ascii _ hb => simp [hb] at hfirst
      | stray hb => simp [hb] at hfirst
      | two lead hle hlt =>
          rw [first_two lead hlt hle] at hrest
          exact pieces_inside_ne_nil _ _ _ _ _ hrest
      | three lead hlt =>
          rw [first_three lead hlt] at hrest
          exact pieces_inside_ne_nil _ _ _ _ _ hrest
      | four lead hlt =>
          rw [first_four lead hlt] at hrest
          exact pieces_inside_ne_nil _ _ _ _ _ hrest

/-! ## The bytes of a character -/

theorem toNat_ofNat {n : Nat} (h : n < 0xD800 ∨ 0xDFFF < n ∧ n < 0x110000) : (Char.ofNat n).toNat = n := by
  rw [Char.ofNat, dif_pos h]
  rfl

theorem toUInt8_continuation {b : UInt8} (h : 0x80 ≤ b.toNat) : (0x80 + (b.toNat - 0x80)).toUInt8 = b := by
  rw [Nat.add_sub_cancel' h, toUInt8_toNat]

/-! The value that is read from two, three or four bytes has these bytes, if it is long enough for them. -/

theorem encodeChar_two {lead x : Nat} (hle : 2 ≤ lead) (hlt : lead < 32) (hx : x < 64) :
    encodeChar (Char.ofNat (lead * 64 + x)) = [(0xC0 + lead).toUInt8, (0x80 + x).toUInt8] := by
  generalize hvalue : lead * 64 + x = n
  have hlead : n / 64 = lead := by omega
  have hlast : n % 64 = x := by omega
  rw [encodeChar, toNat_ofNat (.inl (by omega)), if_neg (by omega), if_pos (by omega), hlead, hlast]

theorem encodeChar_three {lead x y n : Nat} (hvalue : (lead * 64 + x) * 64 + y = n) (hx : x < 64) (hy : y < 64)
    (hle : 0x800 ≤ n) (hlt : n < 0x10000) (hvalid : n < 0xD800 ∨ 0xDFFF < n) :
    encodeChar (Char.ofNat n) = [(0xE0 + lead).toUInt8, (0x80 + x).toUInt8, (0x80 + y).toUInt8] := by
  have hlead : n / 4096 = lead := by omega
  have hmiddle : n / 64 % 64 = x := by omega
  have hlast : n % 64 = y := by omega
  rw [encodeChar, toNat_ofNat (by omega), if_neg (by omega), if_neg (by omega), if_pos hlt, hlead, hmiddle,
    hlast]

theorem encodeChar_four {lead x y z n : Nat} (hvalue : ((lead * 64 + x) * 64 + y) * 64 + z = n) (hx : x < 64)
    (hy : y < 64) (hz : z < 64) (hle : 0x10000 ≤ n) (hlt : n < 0x110000) : encodeChar (Char.ofNat n) =
      [(0xF0 + lead).toUInt8, (0x80 + x).toUInt8, (0x80 + y).toUInt8, (0x80 + z).toUInt8] := by
  have hlead : n / 262144 = lead := by omega
  have hsecond : n / 4096 % 64 = x := by omega
  have hthird : n / 64 % 64 = y := by omega
  have hlast : n % 64 = z := by omega
  rw [encodeChar, toNat_ofNat (by omega), if_neg (by omega), if_neg (by omega), if_neg (by omega), hlead,
    hsecond, hthird, hlast]

/-- Where a character is read, its bytes stand. The window of the second byte leaves no shorter form and no
half of a surrogate pair. -/
theorem eq_encodeChar_of_pieces {bs : Bytes} {c : Char} {ps : List (Option Char)}
    (h : pieces .start bs = some c :: ps) : ∃ rest, bs = encodeChar c ++ rest ∧ pieces .start rest = ps := by
  cases bs with
  | nil => cases h
  | cons a rest =>
      rw [pieces_start_cons] at h
      cases firstByte a with
      | ascii hascii ha =>
          rw [ha] at h
          obtain ⟨hc, hps⟩ := List.cons.inj h
          have hn : (Char.ofNat a.toNat).toNat = a.toNat := toNat_ofNat (.inl (by omega))
          refine ⟨rest, ?_, hps⟩
          rw [← Option.some.inj hc, encodeChar_ascii (by rw [hn]; exact hascii), hn, toUInt8_toNat]
          rfl
      | stray ha =>
          rw [ha] at h
          cases h
      | two lead hle hlt =>
          rw [first_two lead hlt hle, List.nil_append] at h
          obtain ⟨b, rest, rfl, hb, hc, hps⟩ := exists_of_pieces_last h
          refine ⟨rest, ?_, hps⟩
          rw [hc, encodeChar_two hle hlt (by omega), toUInt8_continuation hb.1]
          rfl
      | three lead hlt =>
          rw [first_three lead hlt, List.nil_append] at h
          obtain ⟨b, rest, rfl, hb, hmore⟩ := exists_of_pieces_more h
          obtain ⟨d, rest, rfl, hd, hc, hps⟩ := exists_of_pieces_last hmore
          refine ⟨rest, ?_, hps⟩
          -- whatever the window is, it is one of continuation bytes
          have hsecond : 0x80 ≤ b.toNat ∧ b.toNat ≤ 0xBF := by split at hb <;> split at hb <;> omega
          generalize hvalue : (lead * 64 + (b.toNat - 0x80)) * 64 + (d.toNat - 0x80) = n at hc
          have hvalid : 0x800 ≤ n ∧ (n < 0xD800 ∨ 0xDFFF < n) := by split at hb <;> split at hb <;> omega
          rw [hc, encodeChar_three hvalue (by omega) (by omega) hvalid.1 (by omega) hvalid.2,
            toUInt8_continuation hsecond.1, toUInt8_continuation hd.1]
          rfl
      | four lead hlt =>
          rw [first_four lead hlt, List.nil_append] at h
          obtain ⟨b, rest, rfl, hb, hmore⟩ := exists_of_pieces_more h
          obtain ⟨d, rest, rfl, hd, hlater⟩ := exists_of_pieces_more hmore
          obtain ⟨e, rest, rfl, he, hc, hps⟩ := exists_of_pieces_last hlater
          refine ⟨rest, ?_, hps⟩
          have hsecond : 0x80 ≤ b.toNat ∧ b.toNat ≤ 0xBF := by split at hb <;> split at hb <;> omega
          generalize hvalue :
            ((lead * 64 + (b.toNat - 0x80)) * 64 + (d.toNat - 0x80)) * 64 + (e.toNat - 0x80) = n at hc
          have hvalid : 0x10000 ≤ n ∧ n < 0x110000 := by split at hb <;> split at hb <;> omega
          rw [hc, encodeChar_four hvalue (by omega) (by omega) (by omega) hvalid.1 hvalid.2,
            toUInt8_continuation hsecond.1, toUInt8_continuation hd.1, toUInt8_continuation he.1]
          rfl

/-! ## Whole texts -/

/-- The induction is on the characters: each takes its own bytes off the front. -/
theorem eq_encode_of_pieces {bs : Bytes} {cs : List Char} (h : pieces .start bs = cs.map some) :
    bs = encode cs := by
  induction cs generalizing bs with
  | nil => exact eq_nil_of_pieces h
  | cons c cs ih =>
      obtain ⟨rest, rfl, hrest⟩ := eq_encodeChar_of_pieces h
      rw [encode_cons, ← ih hrest]

theorem eq_map_some_of_mapM {α : Type} {as : List (Option α)} {bs : List α} (h : as.mapM id = some bs) :
    as = bs.map some := by
  induction as generalizing bs with
  | nil =>
      cases h
      rfl
  | cons a as ih =>
      rw [List.mapM_cons] at h
      obtain ⟨b, hb, h⟩ := Option.bind_eq_some_iff.mp h
      obtain ⟨rest, hrest, h⟩ := Option.bind_eq_some_iff.mp h
      cases h
      rw [List.map_cons, ← ih hrest, ← hb]
      rfl

/-- Characters are read from their bytes, and from nothing else. -/
theorem decode?_eq_some_iff {bs : Bytes} {cs : List Char} : decode? bs = some cs ↔ encode cs = bs := by
  constructor
  · intro h
    exact (eq_encode_of_pieces (eq_map_some_of_mapM h)).symm
  · rintro rfl
    exact decode?_encode cs

/-! ## Stored texts -/

/-- A character has the bytes that it is stored as. -/
theorem encodeChar_eq (c : Char) : encodeChar c = String.utf8EncodeChar c := by
  have hvalid : c.toNat < 0xD800 ∨ 0xDFFF < c.toNat ∧ c.toNat < 0x110000 := c.valid
  unfold encodeChar String.utf8EncodeChar
  rw [← Char.toNat]
  generalize c.toNat = n at hvalid ⊢
  have hlt : ∀ m, n ≤ m ↔ n < m + 1 := fun m => Nat.lt_succ_iff.symm
  simp only [hlt 127, hlt 2047, hlt 65535, Nat.reduceAdd]
  -- the leading bits need no mask
  split
  · rfl
  split
  · rw [Nat.mod_eq_of_lt (show n / 64 < 32 by omega)]
    simp only [Nat.add_comm]
  split
  · rw [Nat.mod_eq_of_lt (show n / 4096 < 16 by omega)]
    simp only [Nat.add_comm]
  · rw [Nat.mod_eq_of_lt (show n / 262144 < 8 by omega)]
    simp only [Nat.add_comm]

theorem toByteArray_bytes (text : String) : (bytes text).toByteArray = text.toByteArray := by
  have hchars : encodeChar = String.utf8EncodeChar := funext encodeChar_eq
  rw [bytes, encode, hchars, ← String.utf8Encode_toList, List.utf8Encode]

/-- A text is read from the bytes that it is stored as, and from nothing else. -/
theorem text?_eq_some_iff {bs : Bytes} {text : String} :
    text? bs = some text ↔ text.toByteArray = bs.toByteArray := by
  rw [← toByteArray_bytes, List.toByteArray_inj]
  constructor
  · intro h
    obtain ⟨cs, hcs, rfl⟩ := Option.map_eq_some_iff.mp h
    rw [bytes_ofList]
    exact decode?_eq_some_iff.mp hcs
  · rintro rfl
    exact text?_bytes text

end RegionGateway.Utf8
