import RegionGateway.Proofs.Json.Loop

/-!
# Reading natural numbers

The decimal digits of a natural number of at most 64 bits are read as that number, provided that
what follows them cannot go on a number (`readValue_decimal`). `Delimited` says what may follow a
value in a compact text: a blank, a comma, a closing bracket, or nothing.
-/

namespace RegionGateway

/-- The input goes on with something that ends the value before it. -/
def Delimited (rest : Bytes) : Prop :=
  ∀ b ∈ rest.head?, Reader.isBlank b = true ∨ b = 0x2C ∨ b = 0x5D ∨ b = 0x7D

namespace Delimited

theorem nil : Delimited [] := by simp [Delimited]

theorem blank {b : UInt8} (h : Reader.isBlank b = true) (rest : Bytes) : Delimited (b :: rest) := by
  simp [Delimited, h]

theorem comma (rest : Bytes) : Delimited (0x2C :: rest) := by simp [Delimited]

theorem bracket (rest : Bytes) : Delimited (0x5D :: rest) := by simp [Delimited]

theorem brace (rest : Bytes) : Delimited (0x7D :: rest) := by simp [Delimited]

theorem blanks {blanks rest : Bytes} (h : ∀ b ∈ blanks, Reader.isBlank b = true) (hrest : Delimited rest) :
    Delimited (blanks ++ rest) := by
  cases blanks with
  | nil => exact hrest
  | cons b blanks => exact blank (h b List.mem_cons_self) _

/-- More values behind commas, and then an end. -/
theorem separated {α : Type} (text : α → Bytes) (values : List α) {rest : Bytes}
    (h : Delimited rest) : Delimited ((values.flatMap fun value => 0x2C :: text value) ++ rest) := by
  cases values with
  | nil => exact h
  | cons value values => exact comma _

/-- What ends a value goes on no number. -/
theorem byte_cases {b : UInt8} {rest : Bytes} (h : Delimited (b :: rest)) :
    b = 0x20 ∨ b = 0x09 ∨ b = 0x0A ∨ b = 0x0D ∨ b = 0x2C ∨ b = 0x5D ∨ b = 0x7D := by
  have hb := h b rfl
  simp only [Reader.isBlank, Bool.or_eq_true, beq_iff_eq] at hb
  tauto

end Delimited

namespace NumberText

/-! ## Digits -/

/-- The first digit of a positive number is not zero. -/
theorem head?_toDigits_ne_zero (n : Nat) (h : 0 < n) : (Nat.toDigits 10 n).head? ≠ some '0' := by
  induction n using Nat.strongRecOn with
  | ind n ih =>
      rw [Nat.toDigits_eq_if (by decide)]
      -- a number of one digit is that digit, any other begins like its tenth
      split
      · simp only [List.head?_cons, ne_eq, Option.some.injEq, Nat.digitChar_eq_zero]
        omega
      · have hrest := ih (n / 10) (by omega) (by omega)
        obtain ⟨c, cs, hcs⟩ := List.exists_cons_of_ne_nil (Nat.toDigits_ne_nil (n := n / 10) (b := 10))
        rw [hcs] at hrest ⊢
        exact hrest

/-- The values of the digits of a number make up the number. -/
theorem natural_decimal (n : Nat) :
    natural ((decimal n).map (·.toNat - 0x30)) = n := by
  have h := Nat.ofDigitChars_ten_toDigits (n := n)
  rw [Nat.ofDigitChars_eq_foldl] at h
  rw [natural, List.foldl_map, decimal]
  simpa [Nat.mul_comm] using h

theorem isDigit_of_mem_decimal {n : Nat} {c : Char} (h : c ∈ decimal n) : c.isDigit = true :=
  Nat.isDigit_of_mem_toDigits (by decide) (by decide) h

/-- A digit as a number. -/
theorem toNat_of_isDigit {c : Char} (h : c.isDigit = true) : 0x30 ≤ c.toNat ∧ c.toNat ≤ 0x39 := by
  simp only [Char.isDigit, Bool.and_eq_true, decide_eq_true_eq, ge_iff_le, UInt32.le_iff_toNat_le] at h
  exact h

/-- The digits of a number do not begin with a zero that another digit follows. -/
theorem decimal_ne_zero_cons (n d : Nat) (ds : List Nat) :
    (decimal n).map (·.toNat - 0x30) ≠ 0 :: d :: ds := by
  intro h
  obtain ⟨c, cs, hn, hc, hcs⟩ := List.map_eq_cons_iff.mp h
  have hzero : c = '0' := by
    have hdigit := toNat_of_isDigit (isDigit_of_mem_decimal (hn ▸ List.mem_cons_self : c ∈ decimal n))
    rw [← Char.ofNat_toNat c, show c.toNat = 0x30 by omega]
  rcases Nat.eq_zero_or_pos n with rfl | hpos
  · -- zero is one digit, which nothing follows
    rw [decimal, Nat.toDigits_zero, List.cons.injEq] at hn
    rw [← hn.2] at hcs
    simp at hcs
  · refine head?_toDigits_ne_zero n hpos ?_
    rw [← decimal, hn, hzero]
    rfl

/-- A digit is one byte. -/
theorem encodeChar_digit {c : Char} (h : c.isDigit = true) :
    Utf8.encodeChar c = [c.toNat.toUInt8] ∧ c.toNat.toUInt8.toNat = c.toNat ∧
      (0x30 ≤ c.toNat.toUInt8 && c.toNat.toUInt8 ≤ 0x39) = true := by
  have hdigit := toNat_of_isDigit h
  have hb : c.toNat.toUInt8.toNat = c.toNat :=
    UInt8.toNat_ofNat_of_lt' (Nat.lt_of_le_of_lt hdigit.2 (by decide))
  refine ⟨Utf8.encodeChar_ascii (by omega), hb, ?_⟩
  simp only [Bool.and_eq_true, decide_eq_true_eq, UInt8.le_iff_toNat_le, hb]
  exact hdigit

/-- No digit ends a value. -/
theorem digits_delimited {rest : Bytes} (hrest : Delimited rest) :
    Reader.digits rest = .ok ([], rest) := by
  cases rest with
  | nil => rfl
  | cons b rest =>
      rcases hrest.byte_cases with rfl | rfl | rfl | rfl | rfl | rfl | rfl <;> rfl

/-- The digits before something that ends the number are read to their end. -/
theorem digits_encode {cs : List Char} (hcs : ∀ c ∈ cs, c.isDigit = true) {rest : Bytes}
    (hrest : Delimited rest) :
    Reader.digits (Utf8.encode cs ++ rest) = .ok (cs.map (·.toNat - 0x30), rest) := by
  induction cs with
  | nil => exact digits_delimited hrest
  | cons c cs ih =>
      obtain ⟨hbytes, hvalue, hdigit⟩ := encodeChar_digit (hcs c List.mem_cons_self)
      have hrec := ih fun d hd => hcs d (List.mem_cons_of_mem _ hd)
      simp only [Reader.digits, Except.ok.injEq, Prod.mk.injEq] at hrec ⊢
      rw [Utf8.encode_cons, hbytes]
      simp only [List.cons_append, List.nil_append, List.takeWhile_cons, List.dropWhile_cons, hdigit,
        if_true, List.map_cons, hvalue, hrec, true_and]

/-! ## Parts of a number -/

/-- What ends a value is no point, no exponent and no sign. -/
theorem peek_delimited {rest : Bytes} (hrest : Delimited rest) :
    ∃ next, Reader.peek rest = .ok (next, rest) ∧
      next ≠ some '.' ∧ next ≠ some 'e' ∧ next ≠ some 'E' := by
  cases rest with
  | nil => exact ⟨none, rfl, by simp⟩
  | cons b rest =>
      refine ⟨_, Reader.peek_cons b rest, ?_⟩
      rcases hrest.byte_cases with rfl | rfl | rfl | rfl | rfl | rfl | rfl <;> decide

theorem readFraction_delimited (atEnd : Fault) {rest : Bytes} (hrest : Delimited rest) :
    readFraction atEnd rest = .ok (none, rest) := by
  obtain ⟨next, hpeek, hpoint, -, -⟩ := peek_delimited hrest
  rw [readFraction, Reader.bind_ok _ hpeek, if_neg hpoint]
  rfl

theorem readExponent_delimited (atEnd : Fault) {rest : Bytes} (hrest : Delimited rest) :
    readExponent atEnd rest = .ok (none, rest) := by
  obtain ⟨next, hpeek, -, hsmall, hlarge⟩ := peek_delimited hrest
  rw [readExponent, Reader.bind_ok _ hpeek, if_neg (by simp [hsmall, hlarge])]
  rfl

theorem readWhole_decimal (atEnd : Fault) (n : Nat) {rest : Bytes} (hrest : Delimited rest) :
    readWhole atEnd (Utf8.encode (decimal n) ++ rest) =
      .ok ((decimal n).map (·.toNat - 0x30), rest) := by
  have hsome : someDigits atEnd (Utf8.encode (decimal n) ++ rest) =
      .ok ((decimal n).map (·.toNat - 0x30), rest) := by
    rw [someDigits, Reader.bind_ok _ (digits_encode (fun c => isDigit_of_mem_decimal) hrest),
      if_neg (by simp [decimal, Nat.toDigits_ne_nil])]
    rfl
  have hzero := decimal_ne_zero_cons n
  rw [readWhole, Reader.bind_ok _ hsome]
  generalize (decimal n).map (·.toNat - 0x30) = digits at hzero ⊢
  -- the reader refuses digits only after a leading zero
  rcases digits with _ | ⟨_ | d, _ | ⟨e, es⟩⟩
  · rfl
  · rfl
  · exact absurd rfl (hzero e es)
  · rfl
  · rfl

/-- A number begins with a digit. -/
theorem decimal_eq_cons (n : Nat) : ∃ c cs, decimal n = c :: cs ∧ c.isDigit = true := by
  obtain ⟨c, cs, hcs⟩ := List.exists_cons_of_ne_nil (Nat.toDigits_ne_nil (n := n) (b := 10))
  refine ⟨c, cs, hcs, isDigit_of_mem_decimal (n := n) ?_⟩
  rw [decimal, hcs]
  exact List.mem_cons_self

theorem decimal_head (n : Nat) : ∃ c : Char, c.isDigit = true ∧ ∀ rest,
    ∃ input, Utf8.encode (decimal n) ++ rest = c.toNat.toUInt8 :: input := by
  obtain ⟨c, cs, hcs, hdigit⟩ := decimal_eq_cons n
  refine ⟨c, hdigit, fun rest => ⟨Utf8.encode cs ++ rest, ?_⟩⟩
  rw [hcs, Utf8.encode_cons, (encodeChar_digit hdigit).1]
  rfl

theorem ofNat_digit {c : Char} (h : c.isDigit = true) : Char.ofNat (c.toNat.toUInt8).toNat = c := by
  rw [(encodeChar_digit h).2.1, Char.ofNat_toNat]

/-- A natural number has one part only. -/
theorem read_decimal (atEnd : Fault) (n : Nat) {rest : Bytes} (hrest : Delimited rest) :
    read atEnd (Utf8.encode (decimal n) ++ rest) =
      .ok (⟨false, (decimal n).map (·.toNat - 0x30), none, none⟩, rest) := by
  obtain ⟨c, hdigit, hhead⟩ := decimal_head n
  obtain ⟨input, hinput⟩ := hhead rest
  have hpeek : Reader.peek (Utf8.encode (decimal n) ++ rest) =
      .ok (some c, Utf8.encode (decimal n) ++ rest) := by
    rw [hinput, Reader.peek_cons, ofNat_digit hdigit]
  have hsign : (some c == some '-') = false := by
    rw [beq_eq_false_iff_ne, ne_eq, Option.some.injEq]
    rintro rfl
    exact absurd hdigit (by decide)
  rw [read, Reader.bind_ok _ hpeek, hsign, if_neg (by decide)]
  show (readWhole atEnd >>= _) _ = _
  rw [Reader.bind_ok _ (readWhole_decimal atEnd n hrest),
    Reader.bind_ok _ (readFraction_delimited atEnd hrest),
    Reader.bind_ok _ (readExponent_delimited atEnd hrest)]
  rfl

/-- A number of at most 64 bits is read as that number. -/
theorem readValue_decimal {n : Nat} (h : n ≤ greatest) {rest : Bytes} (hrest : Delimited rest) :
    readValue (Utf8.encode (decimal n) ++ rest) = .ok (.int n, rest) := by
  have hvalue : value ⟨false, (decimal n).map (·.toNat - 0x30), none, none⟩ = some (.int n) := by
    simp [value, natural_decimal, h]
  rw [readValue, Reader.bind_ok _ (read_decimal _ n hrest), hvalue]
  rfl

end NumberText

end RegionGateway
