import RegionGateway.Proofs.Json.Layouts

/-!
# The bytes of a compact text

`Json.bytes` is what is sent for a value, its text in the compact layout. The equations for the bytes of
a value need no nesting depth, for that layout does not look at it (`chars_compact`).
-/

namespace RegionGateway.Json

/-- The compact text of a value as bytes. -/
def bytes (value : Json) : Bytes := Utf8.bytes value.compact

theorem bytes_eq (value : Json) : value.bytes = Utf8.encode (value.chars .compact 0) := by
  rw [bytes, compact, Utf8.bytes_ofList]

@[simp] theorem gap_compact (depth : Nat) : Layout.compact.gap depth = [] := rfl

@[simp] theorem colon_compact : Layout.compact.colon = [':'] := rfl

mutual
/-- The compact layout does not look at the depth. -/
theorem chars_compact (d e : Nat) : ∀ value : Json, value.chars .compact d = value.chars .compact e
  | .null | .bool true | .bool false | .int _ | .float _ | .str _ | .arr [] | .obj [] => by
      simp only [chars]
  | .arr (item :: items) => by
      simp only [chars, gap_compact]
      rw [chars_compact (d + 1) (e + 1) item, itemChars_compact (d + 1) (e + 1) items]
  | .obj (member :: members) => by
      simp only [chars, gap_compact]
      rw [chars_compact (d + 1) (e + 1) member.2, memberChars_compact (d + 1) (e + 1) members]

theorem itemChars_compact (d e : Nat) : ∀ items : List Json,
    itemChars .compact d items = itemChars .compact e items
  | [] => rfl
  | item :: items => by
      simp only [itemChars, gap_compact]
      rw [chars_compact d e item, itemChars_compact d e items]

theorem memberChars_compact (d e : Nat) : ∀ members : List (String × Json),
    memberChars .compact d members = memberChars .compact e members
  | [] => rfl
  | member :: members => by
      simp only [memberChars, gap_compact]
      rw [chars_compact d e member.2, memberChars_compact d e members]
end

/-- A text in the compact layout is the compact text. -/
@[simp] theorem laid_compact (depth : Nat) (value : Json) : laid .compact depth value = value.bytes := by
  rw [bytes_eq, laid, chars_compact depth 0]

@[simp] theorem gapBytes_compact (depth : Nat) : Layout.compact.gapBytes depth = [] := rfl

theorem colonBytes_compact : Layout.compact.colonBytes = [0x3A] := by decide

theorem afterColon_compact : Layout.compact.afterColon = [] := by decide

/-! ## One equation for each kind of value -/

theorem bytes_null : bytes .null = [0x6E, 0x75, 0x6C, 0x6C] := by
  rw [← laid_compact 0, laid_null]

theorem bytes_str (s : String) :
    bytes (.str s) = 0x22 :: (Utf8.encode (s.toList.flatMap escaped) ++ [0x22]) := by
  rw [← laid_compact 0, laid_str]

theorem bytes_str_append (s : String) (rest : Bytes) :
    bytes (.str s) ++ rest = 0x22 :: (Utf8.encode (s.toList.flatMap escaped) ++ 0x22 :: rest) := by
  rw [bytes_str, List.cons_append, List.append_assoc, List.cons_append, List.nil_append]

/-- A string has the same text in every layout. -/
theorem laid_str_eq (layout : Layout) (depth : Nat) (s : String) :
    laid layout depth (.str s) = bytes (.str s) := by
  rw [laid_str, bytes_str]

/-- The bytes of a member of an object. -/
def memberBytes (member : String × Json) : Bytes := bytes (.str member.1) ++ 0x3A :: bytes member.2

theorem laidMember_compact (depth : Nat) (member : String × Json) :
    laidMember .compact depth member = memberBytes member := by
  rw [laidMember, gapBytes_compact, laid_compact, laid_compact, colonBytes_compact, memberBytes,
    List.nil_append, List.cons_append, List.nil_append]

theorem bytes_obj_nil : bytes (.obj []) = [0x7B, 0x7D] := by
  rw [← laid_compact 0, laid_obj_nil]

theorem bytes_obj_cons (member : String × Json) (members : List (String × Json)) :
    bytes (.obj (member :: members)) = 0x7B :: (memberBytes member ++
      ((members.flatMap fun member => 0x2C :: memberBytes member) ++ [0x7D])) := by
  rw [← laid_compact 0, laid_obj_cons]
  simp only [laidMember_compact, gapBytes_compact, List.nil_append]

/-! ## How a text begins -/

theorem bytes_arr (items : List Json) : ∃ rest, bytes (.arr items) = 0x5B :: rest := by
  simpa only [laid_compact] using laid_arr .compact 0 items

theorem bytes_obj (members : List (String × Json)) :
    ∃ rest, bytes (.obj members) = 0x7B :: rest := by
  simpa only [laid_compact] using laid_obj .compact 0 members

/-- The first byte of a text is no blank, and it closes no bracket. -/
theorem bytes_head (value : Json) : ∃ b rest, value.bytes = b :: rest ∧
    Reader.isBlank b = false ∧ Char.ofNat b.toNat ≠ ']' := by
  simpa only [laid_compact] using laid_head .compact 0 value

theorem length_bytes_pos (value : Json) : 0 < value.bytes.length := by
  simpa only [laid_compact] using length_laid_pos .compact 0 value

end RegionGateway.Json
