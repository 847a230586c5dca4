import Mathlib.Tactic.Common
import RegionGateway.Text.Utf8

/-!
# Decoding undoes encoding

The UTF-8 reader gives back the characters whose bytes it is given:

* `pieces_encodeChar`: from between two characters, the machine reads the bytes of one character as
  that character and is between characters again;
* `decode?_encode`, `text?_bytes`: hence an encoded text is read as that text.

The bytes of a character that is not ASCII are all at least `0x80` (`le_of_mem_encodeChar`), so that
no such byte can be taken for punctuation.
-/

namespace RegionGateway.Utf8

/-! ## Bytes of a text -/

@[simp] theorem encode_nil : encode [] = [] := rfl

@[simp] theorem encode_cons (c : Char) (cs : List Char) :
    encode (c :: cs) = encodeChar c ++ encode cs := rfl

@[simp] theorem encode_append (cs ds : List Char) : encode (cs ++ ds) = encode cs ++ encode ds := by
  simp [encode]

@[simp] theorem bytes_ofList (cs : List Char) : bytes (String.ofList cs) = encode cs := by
  simp [bytes]

/-- An ASCII character is one byte. -/
theorem encodeChar_ascii {c : Char} (h : c.toNat < 0x80) : encodeChar c = [c.toNat.toUInt8] := by
  simp [encodeChar, h]

/-- The bytes of another character are no ASCII characters. -/
theorem le_of_mem_encodeChar {c : Char} (h : 0x80 ≤ c.toNat) :
    ∀ b ∈ encodeChar c, 0x80 ≤ b.toNat := by
  intro b hb
  have hvalid : c.toNat < 0xD800 ∨ 0xDFFF < c.toNat ∧ c.toNat < 0x110000 := c.valid
  rw [encodeChar, if_neg (by omega)] at hb
  -- leading bytes are at least `0xC0`, continuation bytes at least `0x80`
  split at hb
  · simp only [List.mem_cons, List.not_mem_nil, or_false] at hb
    rcases hb with rfl | rfl <;> simp <;> omega
  split at hb
  · simp only [List.mem_cons, List.not_mem_nil, or_false] at hb
    rcases hb with rfl | rfl | rfl <;> simp <;> omega
  · simp only [List.mem_cons, List.not_mem_nil, or_false] at hb
    rcases hb with rfl | rfl | rfl | rfl <;> simp <;> omega

/-! ## The machine over one character -/

theorem pieces_start_cons (b : UInt8) (rest : Bytes) :
    pieces .start (b :: rest) = (first b).1 ++ pieces (first b).2 rest := by
  simp [pieces, step]

/-- A byte in the window completes the character when no more bytes are due after it. -/
theorem pieces_inside_last {value low high : Nat} {b : UInt8} (rest : Bytes)
    (h : low ≤ b.toNat ∧ b.toNat ≤ high) :
    pieces (.inside 0 value low high) (b :: rest) =
      some (Char.ofNat (value * 64 + (b.toNat - 0x80))) :: pieces .start rest := by
  simp [pieces, step, h]

/-- A byte in the window is taken into the value when more bytes are due after it. -/
theorem pieces_inside_more {owed value low high : Nat} {b : UInt8} (rest : Bytes)
    (h : low ≤ b.toNat ∧ b.toNat ≤ high) :
    pieces (.inside (owed + 1) value low high) (b :: rest) =
      pieces (.inside owed (value * 64 + (b.toNat - 0x80)) 0x80 0xBF) rest := by
  simp [pieces, step, h]

/-! The first byte of a longer character gives its leading bits and the window of the second. -/

theorem first_two : ∀ lead < 32, 2 ≤ lead →
    first (0xC0 + lead).toUInt8 = ([], .inside 0 lead 0x80 0xBF) := by decide

theorem first_three : ∀ lead < 16, first (0xE0 + lead).toUInt8 =
    ([], .inside 1 lead (if lead = 0 then 0xA0 else 0x80) (if lead = 13 then 0x9F else 0xBF)) := by
  decide

theorem first_four : ∀ lead < 5, first (0xF0 + lead).toUInt8 =
    ([], .inside 2 lead (if lead = 0 then 0x90 else 0x80) (if lead = 4 then 0x8F else 0xBF)) := by
  decide

/-- A continuation byte as a number. -/
theorem toNat_continuation (n : Nat) : ((0x80 + n % 64).toUInt8).toNat = 0x80 + n % 64 :=
  UInt8.toNat_ofNat_of_lt' (show 0x80 + n % 64 < 0x100 by omega)

/-- The bytes of a character are read as that character. -/
theorem pieces_encodeChar (c : Char) (rest : Bytes) :
    pieces .start (encodeChar c ++ rest) = some c :: pieces .start rest := by
  have hvalid : c.toNat < 0xD800 ∨ 0xDFFF < c.toNat ∧ c.toNat < 0x110000 := c.valid
  have hchar : ∀ n, n = c.toNat → Char.ofNat n = c := fun n h => by rw [h, Char.ofNat_toNat]
  rw [encodeChar]
  generalize c.toNat = n at hvalid hchar ⊢
  -- one case for each length of the encoding
  split
  · have hb : n.toUInt8.toNat = n := UInt8.toNat_ofNat_of_lt' (Nat.lt_trans ‹n < 0x80› (by decide))
    simp only [List.cons_append, List.nil_append, pieces_start_cons, first, hb]
    rw [if_pos ‹n < 0x80›, hchar n rfl]
    rfl
  split
  · simp only [List.cons_append, List.nil_append, pieces_start_cons]
    rw [first_two (n / 64) (by omega) (by omega), List.nil_append,
      pieces_inside_last rest (by rw [toNat_continuation]; omega), toNat_continuation,
      hchar _ (by omega)]
  split
  · simp only [List.cons_append, List.nil_append, pieces_start_cons]
    -- below `0xA0` the second byte would give a shorter form, above `0x9F` half a surrogate pair
    rw [first_three (n / 4096) (by omega), List.nil_append,
      pieces_inside_more _ (by rw [toNat_continuation]; split <;> split <;> omega),
      pieces_inside_last rest (by rw [toNat_continuation]; omega), toNat_continuation,
      toNat_continuation, hchar _ (by omega)]
  · simp only [List.cons_append, List.nil_append, pieces_start_cons]
    rw [first_four (n / 262144) (by omega), List.nil_append,
      pieces_inside_more _ (by rw [toNat_continuation]; split <;> split <;> omega),
      pieces_inside_more _ (by rw [toNat_continuation]; omega),
      pieces_inside_last rest (by rw [toNat_continuation]; omega), toNat_continuation,
      toNat_continuation, toNat_continuation, hchar _ (by omega)]

/-! ## Whole texts -/

theorem pieces_encode (cs : List Char) : pieces .start (encode cs) = cs.map some := by
  induction cs with
  | nil => rfl
  | cons c cs ih => rw [encode_cons, pieces_encodeChar, ih, List.map_cons]

/-- The characters of an encoded text are its characters. -/
@[simp] theorem decode?_encode (cs : List Char) : decode? (encode cs) = some cs := by
  rw [decode?, pieces_encode]
  induction cs with
  | nil => rfl
  | cons c cs ih => simp [ih]

@[simp] theorem text?_bytes (text : String) : text? (bytes text) = some text := by
  simp [text?, bytes]

end RegionGateway.Utf8
