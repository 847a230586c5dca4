import RegionGateway.Proofs.Json.Numbers

/-!
# The bytes of a text

`Json.laid` is the text of a value in a layout. Each kind of value has an equation for its bytes. The
first byte of a text is neither a blank nor a closing bracket (`laid_head`), and only the text of null
begins with an `n` (`laid_head_of_ne_null`). In the layouts that are used nothing but blanks stands
between the tokens (`Layout.Blank`).
-/

namespace RegionGateway.Json

/-- The text of a value at a nesting depth as bytes. -/
def laid (layout : Layout) (depth : Nat) (value : Json) : Bytes :=
  Utf8.encode (value.chars layout depth)

namespace Layout

/-- The bytes before an item, and before the closing bracket. -/
def gapBytes (layout : Layout) (depth : Nat) : Bytes := Utf8.encode (layout.gap depth)

/-- The bytes after a member's name. -/
def colonBytes (layout : Layout) : Bytes := Utf8.encode layout.colon

/-- The bytes between the colon and the value of a member. -/
def afterColon (layout : Layout) : Bytes := layout.colonBytes.drop 1

/-- Between the tokens stand blanks. -/
structure Blank (layout : Layout) : Prop where
  gap : ∀ depth, ∀ b ∈ layout.gapBytes depth, Reader.isBlank b = true
  colon : layout.colonBytes = 0x3A :: layout.afterColon
  afterColon : ∀ b ∈ layout.afterColon, Reader.isBlank b = true

theorem blank_compact : Layout.compact.Blank where
  gap _ b hb := absurd hb List.not_mem_nil
  colon := by decide
  afterColon := List.all_eq_true.mp (by decide)

theorem blank_pretty : Layout.pretty.Blank where
  gap depth b hb := by
    obtain ⟨c, hc, hbyte⟩ := List.mem_flatMap.mp hb
    rcases List.mem_cons.mp hc with rfl | hc
    · obtain rfl : b = 0x0A := by simpa [Utf8.encodeChar] using hbyte
      rfl
    · obtain rfl : c = ' ' := (List.mem_replicate.mp hc).2
      obtain rfl : b = 0x20 := by simpa [Utf8.encodeChar] using hbyte
      rfl
  colon := by decide
  afterColon := List.all_eq_true.mp (by decide)

end Layout

/-! ## One equation for each kind of value -/

theorem encode_quoteMark : Utf8.encodeChar '"' = [0x22] := by decide

theorem encode_comma : Utf8.encodeChar ',' = [0x2C] := by decide

theorem encode_openList : Utf8.encodeChar '[' = [0x5B] := by decide

theorem encode_closeList : Utf8.encodeChar ']' = [0x5D] := by decide

theorem encode_openObject : Utf8.encodeChar '\x7b' = [0x7B] := by decide

theorem encode_closeObject : Utf8.encodeChar '\x7d' = [0x7D] := by decide

theorem encode_quote (s : String) :
    Utf8.encode (quote s) = 0x22 :: (Utf8.encode (s.toList.flatMap escaped) ++ [0x22]) := by
  simp only [quote, List.cons_append, List.nil_append, Utf8.encode_cons, Utf8.encode_append,
    Utf8.encode_nil, List.append_nil, encode_quoteMark]

section

variable (layout : Layout) (depth : Nat)

theorem laid_null : laid layout depth .null = [0x6E, 0x75, 0x6C, 0x6C] := by
  show Utf8.encode ['n', 'u', 'l', 'l'] = _
  decide

theorem laid_bool (b : Bool) : laid layout depth (.bool b) =
    if b then [0x74, 0x72, 0x75, 0x65] else [0x66, 0x61, 0x6C, 0x73, 0x65] := by
  cases b with
  | false =>
      show Utf8.encode ['f', 'a', 'l', 's', 'e'] = _
      decide
  | true =>
      show Utf8.encode ['t', 'r', 'u', 'e'] = _
      decide

theorem laid_nat (n : Nat) : laid layout depth (.int n) = Utf8.encode (decimal n) := by
  show Utf8.encode (decimalInt n) = _
  rw [decimalInt, if_neg (by omega), Int.natAbs_natCast]

theorem laid_str (s : String) : laid layout depth (.str s) =
    0x22 :: (Utf8.encode (s.toList.flatMap escaped) ++ [0x22]) :=
  encode_quote s

/-- An item behind the first. -/
def laidItem (item : Json) : Bytes := layout.gapBytes depth ++ laid layout depth item

/-- A member of an object. -/
def laidMember (member : String × Json) : Bytes :=
  layout.gapBytes depth ++ (laid layout depth (.str member.1) ++
    (layout.colonBytes ++ laid layout depth member.2))

theorem encode_itemChars (items : List Json) : Utf8.encode (itemChars layout depth items) =
    items.flatMap fun item => 0x2C :: laidItem layout depth item := by
  induction items with
  | nil => rfl
  | cons item items ih =>
      show Utf8.encode (',' :: layout.gap depth ++ item.chars layout depth ++
        itemChars layout depth items) = _
      simp only [List.cons_append, List.nil_append, List.append_assoc, Utf8.encode_cons,
        Utf8.encode_append, ih, List.flatMap_cons, encode_comma, laidItem, laid, Layout.gapBytes]

theorem encode_memberChars (members : List (String × Json)) :
    Utf8.encode (memberChars layout depth members) =
      members.flatMap fun member => 0x2C :: laidMember layout depth member := by
  induction members with
  | nil => rfl
  | cons member members ih =>
      show Utf8.encode (',' :: layout.gap depth ++ quote member.1 ++ layout.colon ++
        member.2.chars layout depth ++ memberChars layout depth members) = _
      simp only [laidMember, laid_str] at ih ⊢
      simp only [List.cons_append, List.nil_append, List.append_assoc, Utf8.encode_cons,
        Utf8.encode_append, ih, List.flatMap_cons, encode_comma, encode_quote, laid, Layout.gapBytes,
        Layout.colonBytes]

theorem laid_arr_nil : laid layout depth (.arr []) = [0x5B, 0x5D] := by
  show Utf8.encode ['[', ']'] = _
  decide

theorem laid_arr_cons (item : Json) (items : List Json) : laid layout depth (.arr (item :: items)) =
    0x5B :: (laidItem layout (depth + 1) item ++
      ((items.flatMap fun item => 0x2C :: laidItem layout (depth + 1) item) ++
        (layout.gapBytes depth ++ [0x5D]))) := by
  rw [← encode_itemChars]
  show Utf8.encode ('[' :: layout.gap (depth + 1) ++ item.chars layout (depth + 1) ++
    itemChars layout (depth + 1) items ++ layout.gap depth ++ [']']) = _
  simp only [laid, List.cons_append, List.nil_append, List.append_assoc, Utf8.encode_cons,
    Utf8.encode_append, Utf8.encode_nil, List.append_nil, encode_openList, encode_closeList, laidItem,
    Layout.gapBytes]

theorem laid_obj_nil : laid layout depth (.obj []) = [0x7B, 0x7D] := by
  show Utf8.encode ['\x7b', '\x7d'] = _
  decide

theorem laid_obj_cons (member : String × Json) (members : List (String × Json)) :
    laid layout depth (.obj (member :: members)) = 0x7B :: (laidMember layout (depth + 1) member ++
      ((members.flatMap fun member => 0x2C :: laidMember layout (depth + 1) member) ++
        (layout.gapBytes depth ++ [0x7D]))) := by
  rw [← encode_memberChars]
  show Utf8.encode ('\x7b' :: layout.gap (depth + 1) ++ quote member.1 ++ layout.colon ++
    member.2.chars layout (depth + 1) ++ memberChars layout (depth + 1) members ++
      layout.gap depth ++ ['\x7d']) = _
  simp only [laidMember, laid_str]
  simp only [List.cons_append, List.nil_append, List.append_assoc, Utf8.encode_cons, Utf8.encode_append,
    Utf8.encode_nil, List.append_nil, encode_openObject, encode_closeObject, encode_quote, laid,
    Layout.gapBytes, Layout.colonBytes]

/-! ## How a text begins -/

theorem laid_arr (items : List Json) : ∃ rest, laid layout depth (.arr items) = 0x5B :: rest := by
  cases items with
  | nil => exact ⟨_, laid_arr_nil layout depth⟩
  | cons item items => exact ⟨_, laid_arr_cons layout depth item items⟩

theorem laid_obj (members : List (String × Json)) :
    ∃ rest, laid layout depth (.obj members) = 0x7B :: rest := by
  cases members with
  | nil => exact ⟨_, laid_obj_nil layout depth⟩
  | cons member members => exact ⟨_, laid_obj_cons layout depth member members⟩

end

/-- Whether a value other than null can begin with a character. -/
def opensValue (c : Char) : Bool := c.isDigit || c ∈ ['t', 'f', '"', '-', '[', '\x7b']

/-- The characters begin like a value other than null. -/
def Opens (cs : List Char) : Prop := ∃ c rest, cs = c :: rest ∧ opensValue c = true

theorem Opens.append {cs : List Char} (h : Opens cs) (ds : List Char) : Opens (cs ++ ds) := by
  obtain ⟨c, rest, rfl, hc⟩ := h
  exact ⟨c, rest ++ ds, rfl, hc⟩

theorem Opens.take {cs : List Char} (h : Opens cs) {n : Nat} (hn : 0 < n) : Opens (cs.take n) := by
  obtain ⟨c, rest, rfl, hc⟩ := h
  obtain ⟨n, rfl⟩ : ∃ k, n = k + 1 := ⟨n - 1, by omega⟩
  exact ⟨c, rest.take n, rfl, hc⟩

theorem Opens.cons {c : Char} (h : opensValue c = true) (cs : List Char) : Opens (c :: cs) :=
  ⟨c, cs, rfl, h⟩

theorem opens_decimal (n : Nat) : Opens (decimal n) := by
  obtain ⟨c, cs, hcs, hdigit⟩ := NumberText.decimal_eq_cons n
  exact ⟨c, cs, hcs, by simp [opensValue, hdigit]⟩

theorem opens_float (x : Binary64) : Opens x.text := by
  have hdigits := opens_decimal x.shortest.1
  unfold Binary64.text
  cases x.negative with
  | true => dsimp only; split <;> exact Opens.cons (by decide) _
  | false =>
      -- whatever the exponent, a digit stands first: one of the number, or a zero before the point
      simp only [Bool.false_eq_true, if_false, List.nil_append]
      split
      · exact Opens.cons (by decide) _
      split
      · exact (((hdigits.take (n := 1) (by decide)).append _).append _).append _
      split
      · exact (hdigits.append _).append _
      split
      · exact (hdigits.take (by omega)).append _
      · exact Opens.cons (c := '0') (by decide) _

variable (layout : Layout) (depth : Nat) {value : Json}

theorem opens_chars (h : value ≠ .null) : Opens (value.chars layout depth) := by
  unfold chars
  split
  · contradiction
  · exact Opens.cons (by decide) _
  · exact Opens.cons (by decide) _
  · unfold decimalInt
    split
    · exact Opens.cons (by decide) _
    · exact opens_decimal _
  · exact opens_float _
  all_goals exact Opens.cons (by decide) _

/-- Only the text of null begins with an `n`. -/
theorem laid_head_of_ne_null (h : value ≠ .null) : ∃ b rest,
    laid layout depth value = b :: rest ∧ Reader.isBlank b = false ∧
      Char.ofNat b.toNat ∉ [']', 'n'] := by
  obtain ⟨c, rest, hchars, hc⟩ := opens_chars layout depth h
  have hascii : c.toNat < 0x80 := by
    rcases Bool.or_eq_true_iff.mp hc with hdigit | hmark
    · have hvalue := NumberText.toNat_of_isDigit hdigit
      omega
    · have hmarks : ∀ d ∈ ['t', 'f', '"', '-', '[', '\x7b'], d.toNat < 0x80 := by simp
      exact hmarks c (of_decide_eq_true hmark)
  -- of the ASCII characters only a few open a value, and none of them is a blank
  have hopens : ∀ n < 0x80, opensValue (Char.ofNat n) = true →
      Reader.isBlank n.toUInt8 = false ∧ Char.ofNat n ∉ [']', 'n'] := by decide +kernel
  have hb : c.toNat.toUInt8.toNat = c.toNat :=
    UInt8.toNat_ofNat_of_lt' (Nat.lt_trans hascii (by decide))
  obtain ⟨hblank, hmark⟩ := hopens c.toNat hascii (by rwa [Char.ofNat_toNat])
  refine ⟨c.toNat.toUInt8, Utf8.encode rest, ?_, hblank, by rwa [hb]⟩
  rw [laid, hchars, Utf8.encode_cons, Utf8.encodeChar_ascii hascii]
  rfl

variable (value)

/-- The first byte of a text is no blank, and it closes no bracket. -/
theorem laid_head : ∃ b rest, laid layout depth value = b :: rest ∧
    Reader.isBlank b = false ∧ Char.ofNat b.toNat ≠ ']' := by
  by_cases h : value = .null
  · rw [h, laid_null]
    exact ⟨_, _, rfl, by decide, by decide⟩
  · obtain ⟨b, rest, hbytes, hblank, hmark⟩ := laid_head_of_ne_null layout depth h
    exact ⟨b, rest, hbytes, hblank, fun hclose => hmark (hclose ▸ List.mem_cons_self)⟩

theorem length_laid_pos : 0 < (laid layout depth value).length := by
  obtain ⟨b, rest, hbytes, -, -⟩ := laid_head layout depth value
  rw [hbytes]
  exact Nat.succ_pos _

end RegionGateway.Json
