import RegionGateway.Proofs.Json.Loop

/-!
# Reading quoted strings

A string between quotation marks is read as that string, and passed over to its end:

* `escaped_cases` says what can stand for a character: a short escape, a code unit or the character;
* `runs_escaped` follows the reader over what stands for one character, `runs_quoted` over a string;
* `read_quoted` and `skip_quoted` are the two readers of strings, after the opening mark.
-/

namespace RegionGateway.StringText

open Json (escaped hexPair quote)
open Reader (Runs)

variable {unit : Reader Bytes} {content rest : Bytes} {out : Except Fault (Bytes × Bytes)}

/-- The byte of an ASCII character, seen as a character. -/
theorem ofNat_byte {c : Char} (h : c.toNat < 0x80) : Char.ofNat (c.toNat.toUInt8).toNat = c := by
  have hb : c.toNat.toUInt8.toNat = c.toNat :=
    UInt8.toNat_ofNat_of_lt' (Nat.lt_trans h (by decide))
  rw [hb, Char.ofNat_toNat]

/-! ## What stands for a character -/

/-- A character stands as a short escape, as a code unit, or as itself. -/
theorem escaped_cases (c : Char) :
    (∃ e, escaped c = ['\\', e] ∧ shortEscape? e = some c ∧ e.toNat < 0x80) ∨
    (escaped c = ['\\', 'u', '0', '0'] ++ hexPair c.toNat ∧ c.toNat < 0x20) ∨
    (escaped c = [c] ∧ c ≠ '"' ∧ c ≠ '\\' ∧ 0x20 ≤ c.toNat) := by
  unfold escaped
  split
  · exact .inl ⟨'"', rfl, by simp [shortEscape?, *], by decide⟩
  split
  · exact .inl ⟨'\\', rfl, by simp [shortEscape?, *], by decide⟩
  split
  · exact .inl ⟨'n', rfl, by simp [shortEscape?, *], by decide⟩
  split
  · exact .inl ⟨'r', rfl, by simp [shortEscape?, *], by decide⟩
  split
  · exact .inl ⟨'t', rfl, by simp [shortEscape?, *], by decide⟩
  split
  · exact .inl ⟨'b', rfl, by simp [shortEscape?, *], by decide⟩
  split
  · exact .inl ⟨'f', rfl, by simp [shortEscape?, *], by decide⟩
  split
  · exact .inr (.inl ⟨rfl, ‹_›⟩)
  · exact .inr (.inr ⟨rfl, ‹_›, ‹_›, by omega⟩)

/-- The four digits of a control character's code unit. -/
theorem hexNumber?_codeUnit : ∀ n < 0x20, ∃ a b c d,
    Utf8.encode (['0', '0'] ++ hexPair n) = [a, b, c, d] ∧
      hexNumber? ([a, b, c, d].map fun x => Char.ofNat x.toNat) = some n := by
  intro n hn
  refine ⟨0x30, 0x30, (Nat.digitChar (n / 16)).toNat.toUInt8, (Nat.digitChar (n % 16)).toNat.toUInt8,
    ?_⟩
  revert n
  decide

theorem codeUnit_digits {n : Nat} (h : n < 0x20) (rest : Bytes) :
    codeUnit (Utf8.encode (['0', '0'] ++ hexPair n) ++ rest) = .ok (n, rest) := by
  obtain ⟨a, b, c, d, hbytes, hvalue⟩ := hexNumber?_codeUnit n h
  rw [hbytes]
  simp only [List.cons_append, List.nil_append, codeUnit, hvalue]

/-- A code unit below the surrogates is a character. -/
theorem codePoint_digits {c : Char} (h : c.toNat < 0x20) (rest : Bytes) :
    codePoint (Utf8.encode (['0', '0'] ++ hexPair c.toNat) ++ rest) = .ok (c, rest) := by
  rw [codePoint, Reader.bind_ok _ (codeUnit_digits h rest), if_neg (by omega), if_neg (by omega),
    Char.ofNat_toNat]
  rfl

/-- The bytes of a character that stands for itself mean nothing inside a string. -/
theorem plain_encodeChar {c : Char} (hquote : c ≠ '"') (hslash : c ≠ '\\') (hlow : 0x20 ≤ c.toNat) :
    ∀ b ∈ Utf8.encodeChar c, b ≠ 0x22 ∧ b ≠ 0x5C ∧ 0x20 ≤ b := by
  intro b hb
  by_cases hascii : c.toNat < 0x80
  · rw [Utf8.encodeChar_ascii hascii, List.mem_singleton] at hb
    have hc : Char.ofNat b.toNat = c := by rw [hb, ofNat_byte hascii]
    refine ⟨?_, ?_, ?_⟩
    · rintro rfl
      exact hquote hc.symm
    · rintro rfl
      exact hslash hc.symm
    · rw [hb, UInt8.le_iff_toNat_le]
      simp; omega
  · -- no byte of a longer character is as small as any of the three
    have hle := Utf8.le_of_mem_encodeChar (by omega) b hb
    refine ⟨?_, ?_, ?_⟩
    · rintro rfl
      exact absurd hle (by decide)
    · rintro rfl
      exact absurd hle (by decide)
    · rw [UInt8.le_iff_toNat_le]
      exact Nat.le_trans (by decide) hle

/-! ## The reader over one character -/

/-- Bytes that mean nothing inside a string are taken as they are. -/
theorem runs_plain {bytes : Bytes} (hplain : ∀ b ∈ bytes, b ≠ 0x22 ∧ b ≠ 0x5C ∧ 0x20 ≤ b)
    (h : Runs (piece unit) (bytes.reverse ++ content) rest out) :
    Runs (piece unit) content (bytes ++ rest) out := by
  induction bytes generalizing content with
  | nil => exact h
  | cons b bytes ih =>
      obtain ⟨hquote, hescape, hcontrol⟩ := hplain b List.mem_cons_self
      have hstep : piece unit content (b :: (bytes ++ rest)) =
          .ok (.again (b :: content), bytes ++ rest) := by
        simp only [piece, if_neg hquote, if_neg hescape, if_neg (UInt8.not_lt.mpr hcontrol)]
      rw [List.reverse_cons, List.append_assoc] at h
      exact .again hstep (Nat.lt_succ_self _) (ih (fun b hb => hplain b (List.mem_cons_of_mem _ hb)) h)

/-- A backslash hands over to the reader of escapes. -/
theorem runs_escape {escapeBytes given : Bytes}
    (hescape : escape unit (escapeBytes ++ rest) = .ok (given, rest))
    (h : Runs (piece unit) (given.reverse ++ content) rest out) :
    Runs (piece unit) content (0x5C :: escapeBytes ++ rest) out := by
  have hstep : piece unit content (0x5C :: (escapeBytes ++ rest)) =
      .ok (.again (given.reverse ++ content), rest) := by
    simp only [piece, hescape]
    rfl
  exact .again hstep (by simp only [List.length_cons, List.length_append]; omega) h

/-- A short escape is read as the character it stands for. -/
theorem escape_short {e c : Char} (he : shortEscape? e = some c) (hascii : e.toNat < 0x80)
    (rest : Bytes) : escape unit (e.toNat.toUInt8 :: rest) = .ok (Utf8.encodeChar c, rest) := by
  rw [escape, Reader.bind_ok _ (Reader.next_cons _ _), ofNat_byte hascii]
  unfold shortEscape? at he
  split at he <;> cases he <;> rfl

/-- The bytes that are taken for a character, where `given` are those for a code unit. -/
def taken (given : Char → Bytes) (c : Char) : Bytes :=
  if escaped c = ['\\', 'u', '0', '0'] ++ hexPair c.toNat then given c else Utf8.encodeChar c

/-- The reader over what stands for a character. -/
theorem runs_escaped {given : Char → Bytes}
    (hunit : ∀ c : Char, c.toNat < 0x20 → ∀ rest,
      unit (Utf8.encode (['0', '0'] ++ hexPair c.toNat) ++ rest) = .ok (given c, rest))
    (c : Char) (h : Runs (piece unit) ((taken given c).reverse ++ content) rest out) :
    Runs (piece unit) content (Utf8.encode (escaped c) ++ rest) out := by
  rcases escaped_cases c with ⟨e, hc, he, hascii⟩ | ⟨hc, hcontrol⟩ | ⟨hc, hquote, hslash, hlow⟩
  · rw [taken, if_neg (by simp [hc])] at h
    rw [hc, Utf8.encode_cons, Utf8.encode_cons, Utf8.encodeChar_ascii hascii]
    have hescape : escape unit ([e.toNat.toUInt8] ++ rest) = .ok (Utf8.encodeChar c, rest) :=
      escape_short he hascii rest
    exact runs_escape hescape h
  · rw [taken, if_pos hc] at h
    rw [hc]
    have hescape : escape unit ((0x75 :: Utf8.encode (['0', '0'] ++ hexPair c.toNat)) ++ rest) =
        .ok (given c, rest) := by
      rw [List.cons_append, escape, Reader.bind_ok _ (Reader.next_cons _ _)]
      exact hunit c hcontrol rest
    exact runs_escape hescape h
  · rw [taken, if_neg (by simp [hc])] at h
    rw [hc, Utf8.encode_cons, Utf8.encode_nil, List.append_nil]
    exact runs_plain (plain_encodeChar hquote hslash hlow) h

/-- The reader over a string and its closing mark. -/
theorem runs_quoted {given : Char → Bytes}
    (hunit : ∀ c : Char, c.toNat < 0x20 → ∀ rest,
      unit (Utf8.encode (['0', '0'] ++ hexPair c.toNat) ++ rest) = .ok (given c, rest))
    (cs : List Char) (content rest : Bytes) :
    Runs (piece unit) content (Utf8.encode (cs.flatMap escaped) ++ 0x22 :: rest)
      (.ok (content.reverse ++ cs.flatMap (taken given), rest)) := by
  induction cs generalizing content with
  | nil =>
      refine .done ?_
      simp [piece]
  | cons c cs ih =>
      -- the content is kept back to front, hence the two reversals below
      rw [List.flatMap_cons, Utf8.encode_append, List.append_assoc]
      refine runs_escaped hunit c ?_
      have h := ih ((taken given c).reverse ++ content)
      rwa [List.reverse_append, List.reverse_reverse, List.append_assoc, ← List.flatMap_cons] at h

/-! ## Strings -/

/-- A string is read after its opening mark, to its closing one. -/
theorem read_quoted (s : String) (rest : Bytes) :
    read (Utf8.encode (s.toList.flatMap escaped) ++ 0x22 :: rest) = .ok (s, rest) := by
  have hunit : ∀ c : Char, c.toNat < 0x20 → ∀ rest, (Utf8.encodeChar <$> codePoint)
      (Utf8.encode (['0', '0'] ++ hexPair c.toNat) ++ rest) = .ok (Utf8.encodeChar c, rest) :=
    fun c h rest => Reader.map_ok _ (codePoint_digits h rest)
  have hruns := runs_quoted hunit s.toList [] rest
  have htaken : taken Utf8.encodeChar = Utf8.encodeChar := by
    funext c
    simp [taken]
  rw [htaken] at hruns
  have hcontent : StringText.content (Utf8.encode (s.toList.flatMap escaped) ++ 0x22 :: rest) =
      .ok (Utf8.bytes s, rest) := Reader.loop_eq_of_runs hruns
  rw [read, Reader.bind_ok _ hcontent, Utf8.text?_bytes]
  rfl

/-- A string that nobody asked for is passed over. -/
theorem skip_quoted (s : String) (rest : Bytes) :
    skip (Utf8.encode (s.toList.flatMap escaped) ++ 0x22 :: rest) = .ok ((), rest) := by
  have hunit : ∀ c : Char, c.toNat < 0x20 → ∀ rest, (do let _ ← codeUnit; return [] : Reader Bytes)
      (Utf8.encode (['0', '0'] ++ hexPair c.toNat) ++ rest) = .ok ((fun _ => []) c, rest) :=
    fun c h rest => Reader.bind_ok _ (codeUnit_digits h rest)
  have hruns := runs_quoted hunit s.toList [] rest
  rw [skip, Reader.bind_ok _ (Reader.loop_eq_of_runs hruns)]
  rfl

end RegionGateway.StringText
