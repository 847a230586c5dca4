/-!
# Text as bytes

UTF-8 in both directions. `Utf8.encode` writes characters as bytes. Reading is one machine,
`Utf8.pieces`, that cuts a byte sequence into characters and maximal pieces that no character
starts with; `Utf8.decode?` refuses a sequence with such a piece, and `Utf8.decodeLossy` puts the
replacement character in its place.
-/

namespace RegionGateway

/-- The contents of a file, of a request body or of a response body. -/
abbrev Bytes := List UInt8

namespace Utf8

/-- The bytes of one character. -/
def encodeChar (c : Char) : Bytes :=
  let n := c.toNat
  if n < 0x80 then [n.toUInt8]
  else if n < 0x800 then [(0xC0 + n / 64).toUInt8, (0x80 + n % 64).toUInt8]
  else if n < 0x10000 then
    [(0xE0 + n / 4096).toUInt8, (0x80 + n / 64 % 64).toUInt8, (0x80 + n % 64).toUInt8]
  else
    [(0xF0 + n / 262144).toUInt8, (0x80 + n / 4096 % 64).toUInt8,
      (0x80 + n / 64 % 64).toUInt8, (0x80 + n % 64).toUInt8]

/-- The bytes of a character sequence. -/
def encode (cs : List Char) : Bytes := cs.flatMap encodeChar

/-- Where the reader stands between two bytes. -/
inductive State where
  /-- Between characters. -/
  | start
  /-- Inside a character: `owed + 1` bytes are still due, the next one between `low` and `high`,
  and the bytes read so far give `value`. -/
  | inside (owed value low high : Nat)
  deriving DecidableEq, Repr

/-- What a byte in first position says: a character of its own, the start of a longer one, or
nothing (`none`), and the state after it. -/
def first (b : UInt8) : List (Option Char) × State :=
  let n := b.toNat
  if n < 0x80 then ([some (Char.ofNat n)], .start)
  else if n < 0xC2 then ([none], .start)
  else if n < 0xE0 then ([], .inside 0 (n - 0xC0) 0x80 0xBF)
  else if n = 0xE0 then ([], .inside 1 0 0xA0 0xBF)
  else if n = 0xED then ([], .inside 1 0xD 0x80 0x9F)
  else if n < 0xF0 then ([], .inside 1 (n - 0xE0) 0x80 0xBF)
  else if n = 0xF0 then ([], .inside 2 0 0x90 0xBF)
  else if n < 0xF4 then ([], .inside 2 (n - 0xF0) 0x80 0xBF)
  else if n = 0xF4 then ([], .inside 2 4 0x80 0x8F)
  else ([none], .start)

/-- One byte: the pieces it completes and the state after it. A byte that cannot continue the
character under way ends a malformed piece and stands in first position itself. -/
def step : State → UInt8 → List (Option Char) × State
  | .start, b => first b
  | .inside owed value low high, b =>
    if low ≤ b.toNat ∧ b.toNat ≤ high then
      let value := value * 64 + (b.toNat - 0x80)
      match owed with
      | 0 => ([some (Char.ofNat value)], .start)
      | owed + 1 => ([], .inside owed value 0x80 0xBF)
    else
      let (out, state) := first b
      (none :: out, state)

/-- The pieces of a byte sequence from a given state on: a character, or `none` for a maximal
piece that no character starts with. -/
def pieces : State → Bytes → List (Option Char)
  | .start, [] => []
  | .inside .., [] => [none]
  | state, b :: rest => (step state b).1 ++ pieces (step state b).2 rest

/-- The characters of a byte sequence, if it is well-formed throughout. -/
def decode? (bytes : Bytes) : Option (List Char) := (pieces .start bytes).mapM id

/-- The characters of a byte sequence, with U+FFFD for each malformed piece. -/
def decodeLossy (bytes : Bytes) : List Char :=
  (pieces .start bytes).map (·.getD (Char.ofNat 0xFFFD))

/-- The bytes of a text. -/
def bytes (text : String) : Bytes := encode text.toList

/-- The text that a byte sequence is the encoding of. -/
def text? (bytes : Bytes) : Option String := (decode? bytes).map String.ofList

/-- The text of a byte sequence, with U+FFFD for each malformed piece. -/
def textLossy (bytes : Bytes) : String := String.ofList (decodeLossy bytes)

end Utf8

end RegionGateway
