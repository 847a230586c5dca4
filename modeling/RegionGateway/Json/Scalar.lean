import RegionGateway.Json.Reader

/-!
# Numbers and strings

Reading the scalar tokens. A number is first taken apart into its digits (`NumberText`), then given
a value: an integer if it has neither fraction nor exponent and fits into 64 bits, else a floating
point number. A string is read byte by byte; its escapes are decoded and its bytes have to be UTF-8.
-/

namespace RegionGateway

/-! ## Numbers -/

/-- The parts of a number as written. -/
structure NumberText where
  negative : Bool
  /-- The digits before the point. -/
  whole : List Nat
  /-- The digits after the point, if there is one. -/
  fraction : Option (List Nat)
  /-- Whether the exponent is negative, and its digits. -/
  exponent : Option (Bool × List Nat)

namespace NumberText

/-- At least one digit; `atEnd` is the fault if the text ends here. -/
def someDigits (atEnd : Fault) : Reader (List Nat) := do
  let digits ← Reader.digits
  if digits.isEmpty then
    match ← Reader.peek with
    | none => Reader.fail atEnd
    | some _ => Reader.fail .badNumber
  return digits

/-- The digits before the point: a zero stands alone. -/
def readWhole (atEnd : Fault) : Reader (List Nat) := do
  match ← someDigits atEnd with
  | 0 :: _ :: _ => Reader.fail .badNumber
  | digits => return digits

/-- The digits after a point, if there is one. -/
def readFraction (atEnd : Fault) : Reader (Option (List Nat)) := do
  if (← Reader.peek) = some '.' then
    Reader.advance
    return some (← someDigits atEnd)
  return none

/-- The exponent, if there is one. -/
def readExponent (atEnd : Fault) : Reader (Option (Bool × List Nat)) := do
  let c ← Reader.peek
  if c = some 'e' ∨ c = some 'E' then
    Reader.advance
    let sign ← Reader.peek
    if sign = some '+' ∨ sign = some '-' then Reader.advance
    return some (sign == some '-', ← someDigits atEnd)
  return none

/-- Reads the parts of a number. -/
def read (atEnd : Fault) : Reader NumberText := do
  let negative := (← Reader.peek) == some '-'
  if negative then Reader.advance
  let whole ← readWhole atEnd
  let fraction ← readFraction atEnd
  let exponent ← readExponent atEnd
  return ⟨negative, whole, fraction, exponent⟩

/-- The greatest unsigned 64-bit integer. -/
def greatest : Nat := UInt64.size - 1

/-- Appends digits to a significand for as long as it fits into 64 bits; gives the significand and
the digits that are left over. -/
def absorb : Nat → List Nat → Nat × List Nat
  | significand, [] => (significand, [])
  | significand, d :: ds =>
    if significand * 10 + d ≤ greatest then absorb (significand * 10 + d) ds
    else (significand, d :: ds)

/-- The value of digits. -/
def natural (digits : List Nat) : Nat := digits.foldl (fun n d => n * 10 + d) 0

/-- The floating point value of a number. Digits that no longer fit into the significand are cut
off; those before the point raise the exponent. -/
def float (text : NumberText) : Option Binary64 :=
  let fraction := text.fraction.getD []
  let (significand, cut) := absorb 0 text.whole
  let (significand, unused) := absorb significand fraction
  let exponent : Int :=
    match text.exponent with
    | none => 0
    | some (negative, digits) => if negative then -(natural digits : Int) else natural digits
  let taken : Int := (fraction.length : Int) - unused.length
  Binary64.ofDecimal text.negative significand (exponent + cut.length - taken)

/-- The value of a number: an integer between `-2 ^ 63` and `2 ^ 64 - 1` if it is written as one,
except that `-0` is the floating point zero with that sign. -/
def value (text : NumberText) : Option Scalar :=
  let n := natural text.whole
  match text.fraction, text.exponent with
  | none, none =>
    if text.negative then
      if 0 < n ∧ n ≤ Nat.pow 2 63 then some (.int (-(n : Int))) else text.float.map .float
    else if n ≤ greatest then some (.int n)
    else text.float.map .float
  | _, _ => text.float.map .float

/-- Reads a number and gives it its value. -/
def readValue : Reader Scalar := do
  let text ← read .endInValue
  match text.value with
  | some number => return number
  | none => Reader.fail .numberRange

/-- Passes over a number without looking at its value. -/
def skip : Reader Unit := do
  let _ ← read .badNumber

end NumberText

/-! ## Strings -/

namespace StringText

/-- The value of a hexadecimal digit. -/
def hexValue? (c : Char) : Option Nat :=
  if '0' ≤ c ∧ c ≤ '9' then some (c.toNat - '0'.toNat)
  else if 'a' ≤ c ∧ c ≤ 'f' then some (c.toNat - 'a'.toNat + 10)
  else if 'A' ≤ c ∧ c ≤ 'F' then some (c.toNat - 'A'.toNat + 10)
  else none

/-- The value of hexadecimal digits. -/
def hexNumber? : List Char → Option Nat :=
  List.foldl (fun n c => do return (← n) * 16 + (← hexValue? c)) (some 0)

/-- Reads the four digits of a code unit. -/
def codeUnit : Reader Nat := fun input =>
  match input with
  | a :: b :: c :: d :: rest =>
    match hexNumber? ([a, b, c, d].map fun x => Char.ofNat x.toNat) with
    | some n => .ok (n, rest)
    | none => .error .badEscape
  | _ => .error .endInString

/-- Reads one character that has to come next. -/
def expectInPair (c : Char) : Reader Unit := do
  match ← Reader.next with
  | none => Reader.fail .endInString
  | some d => if d = c then return () else Reader.fail .pairBroken

/-- Reads a character given by one code unit or by a surrogate pair. -/
def codePoint : Reader Char := do
  let high ← codeUnit
  if 0xDC00 ≤ high ∧ high ≤ 0xDFFF then Reader.fail .loneSurrogate
  else if 0xD800 ≤ high ∧ high ≤ 0xDBFF then
    expectInPair '\\'
    expectInPair 'u'
    let low ← codeUnit
    if 0xDC00 ≤ low ∧ low ≤ 0xDFFF then
      return Char.ofNat ((high - 0xD800) * 0x400 + (low - 0xDC00) + 0x10000)
    else Reader.fail .loneSurrogate
  else return Char.ofNat high

/-- The character that a short escape stands for. -/
def shortEscape? : Char → Option Char
  | '"' => some '"'
  | '\\' => some '\\'
  | '/' => some '/'
  | 'b' => some '\x08'
  | 'f' => some '\x0c'
  | 'n' => some '\n'
  | 'r' => some '\r'
  | 't' => some '\t'
  | _ => none

/-- Reads an escape after its backslash; `unit` reads the rest of one that gives a code unit. -/
def escape (unit : Reader Bytes) : Reader Bytes := do
  match ← Reader.next with
  | none => Reader.fail .endInString
  | some 'u' => unit
  | some c =>
    match shortEscape? c with
    | some d => return Utf8.encodeChar d
    | none => Reader.fail .badEscape

/-- Reads one piece of a string's content, or its end. The bytes read so far are in reverse. -/
def piece (unit : Reader Bytes) (content : Bytes) : Reader (Turn Bytes Bytes) := fun input =>
  match input with
  | [] => .error .endInString
  | b :: rest =>
    if b = 0x22 then .ok (.done content.reverse, rest)
    else if b = 0x5C then
      match escape unit rest with
      | .error fault => .error fault
      | .ok (bytes, rest) => .ok (.again (bytes.reverse ++ content), rest)
    else if b < 0x20 then .error .controlInString
    else .ok (.again (b :: content), rest)

/-- Reads the bytes of a string after its opening quotation mark. -/
def content : Reader Bytes := Reader.loop (piece (Utf8.encodeChar <$> codePoint)) []

/-- Reads a string after its opening quotation mark. -/
def read : Reader String := do
  match Utf8.text? (← content) with
  | some s => return s
  | none => Reader.fail .badUnicode

/-- Passes over a string after its opening quotation mark; code units are not paired and bytes not
decoded. -/
def skip : Reader Unit := do
  let _ ← Reader.loop (piece (do let _ ← codeUnit; return [])) []

end StringText

end RegionGateway
