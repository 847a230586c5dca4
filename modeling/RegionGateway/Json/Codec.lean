import RegionGateway.Json.Read

/-!
# Typed values

A `Codec` reads values of a type from JSON and writes them. Records are described by a list of
`Member`s in declaration order; `Codec.record` reads one from an object, in any order and with
unknown members passed over, or from an array of its fields in order.
-/

namespace RegionGateway

/-- How values of a type stand in a JSON text. -/
structure Codec (α : Type) where
  /-- Reads a value in which at most so many brackets are opened. -/
  read : Nat → Reader α
  /-- The JSON form of a value. -/
  write : α → Json

namespace Codec

/-- Refuses a value. -/
def wrong (found : Found) (expected : Expected) : Reader α := Reader.fail (.wrongType found expected)

/-- Reads a scalar; `accept` says which. -/
def scalar (expected : Expected) (accept : Scalar → Reader α) : Nat → Reader α := fun _ =>
  Reader.anyValue accept (wrong .sequence expected) (wrong .map expected)

/-- Any value. -/
def any : Codec Json := ⟨Json.read, id⟩

/-- Strings. -/
def text : Codec String where
  read := scalar .text fun
    | .str s => return s
    | s => wrong (.scalar s) .text
  write := .str

/-- Booleans. -/
def flag : Codec Bool where
  read := scalar .flag fun
    | .bool b => return b
    | s => wrong (.scalar s) .flag
  write := .bool

/-- Natural numbers below a bound. -/
def natural (expected : Expected) (bound : Nat) : Codec Nat where
  read := scalar expected fun
    | .int i =>
      if 0 ≤ i ∧ i < bound then return i.toNat else Reader.fail (.wrongValue i expected)
    | s => wrong (.scalar s) expected
  write n := .int n

/-- Unsigned 16-bit numbers. -/
def u16 : Codec UInt16 where
  read depth := do return UInt16.ofNat (← (natural .u16 UInt16.size).read depth)
  write n := .int n.toNat

/-- Unsigned 32-bit numbers. -/
def u32 : Codec UInt32 where
  read depth := do return UInt32.ofNat (← (natural .u32 UInt32.size).read depth)
  write n := .int n.toNat

/-- The fault of opening a bracket, if no more may be opened; else the rest with one less. -/
def opening (rest : Nat → Reader α) : Nat → Reader α
  | 0 => Reader.fail .tooDeep
  | depth + 1 => rest depth

/-- Lists. -/
def list (item : Codec α) : Codec (List α) where
  read depth :=
    Reader.anyValue (fun s => wrong (.scalar s) .sequence)
      (opening (fun depth => Reader.items (item.read depth)) depth) (wrong .map .sequence)
  write items := .arr (items.map item.write)

/-- Values that may be null. -/
def option (inner : Codec α) : Codec (Option α) where
  read depth := do
    if (← Reader.peekToken) = some 'n' then
      Reader.word ['n', 'u', 'l', 'l']
      return none
    return some (← inner.read depth)
  write
    | none => .null
    | some value => inner.write value

/-- The same codec for a type with the same values. -/
def map (codec : Codec α) (make : α → β) (parts : β → α) : Codec β where
  read depth := do return make (← codec.read depth)
  write value := codec.write (parts value)

end Codec

/-! ## Records -/

/-- A field of a record. -/
structure Member (α : Type) where
  name : String
  codec : Codec α
  /-- A second name under which the field is recognised. -/
  secondName : Option String
  /-- The value of a field that an object does not have, if that is allowed. -/
  absent : Option α
  /-- The value of a field that an array is too short for, if that is allowed. -/
  absentFromArray : Option α
  /-- The values with which the field is left out in writing. -/
  omits : α → Bool

namespace Member

/-- A field that has to be given. -/
def required (name : String) (codec : Codec α) : Member α :=
  ⟨name, codec, none, none, none, fun _ => false⟩

/-- A field with a value to stand in for it. -/
def defaulted (name : String) (codec : Codec α) (value : α) : Member α :=
  ⟨name, codec, none, some value, some value, fun _ => false⟩

/-- A field that may be absent and is not written then. -/
def optional (name : String) (codec : Codec α) : Member (Option α) :=
  ⟨name, codec.option, none, some none, some none, Option.isNone⟩

/-- An optional field that an array has to give, if only as null. -/
def placed (member : Member α) : Member α :=
  ⟨member.name, member.codec, member.secondName, member.absent, none, member.omits⟩

/-- A field that is also recognised under a second name. -/
def also (second : String) (member : Member α) : Member α :=
  ⟨member.name, member.codec, some second, member.absent, member.absentFromArray, member.omits⟩

/-- A field that is left out in writing when it has one of certain values. -/
def leftOutWhen (omits : α → Bool) (member : Member α) : Member α :=
  ⟨member.name, member.codec, member.secondName, member.absent, member.absentFromArray, omits⟩

/-- Whether a name in an object is the field's. -/
def isNamed (member : Member α) (name : String) : Bool :=
  name == member.name || member.secondName == some name

end Member

/-- The fields of a record in declaration order. `σ` is the type of their values together, `τ` that
of the values found so far. -/
inductive Members : Type → Type → Type 1 where
  | nil : Members Unit Unit
  | cons {α σ τ : Type} (first : Member α) (rest : Members σ τ) : Members (α × σ) (Option α × τ)

namespace Members

/-- The number of fields. -/
def size : Members σ τ → Nat
  | .nil => 0
  | .cons _ rest => rest.size + 1

/-- Nothing found so far. -/
def none : Members σ τ → τ
  | .nil => ()
  | .cons _ rest => (Option.none, rest.none)

/-- Reads the rest of an object's member of a given name. -/
def fill (depth : Nat) (name : String) : Members σ τ → τ → Reader τ
  | .nil, () => do
    Reader.colon
    Json.skip
  | .cons first rest, (found, others) =>
    if first.isNamed name then
      match found with
      | some _ => Reader.fail (.duplicateField first.name)
      | Option.none => do
        Reader.colon
        return (some (← first.codec.read depth), others)
    else do return (found, ← rest.fill depth name others)

/-- The values of all fields, once an object has been read to its end. -/
def complete : Members σ τ → τ → Except Fault σ
  | .nil, () => .ok ()
  | .cons first rest, (found, others) => do
    match found, first.absent with
    | some value, _ | Option.none, some value => return (value, ← rest.complete others)
    | Option.none, Option.none => throw (.missingField first.name)

/-- Reads the fields from an array, the first of them in the given place. -/
def fromArray (depth : Nat) (record : String) (total : Nat) : Nat → Members σ τ → Reader σ
  | _, .nil => return ()
  | place, .cons first rest => do
    if ← Reader.anotherElement (place == 0) then
      let value ← first.codec.read depth
      return (value, ← rest.fromArray depth record total (place + 1))
    else
      match first.absentFromArray with
      | some value => return (value, ← rest.fromArray depth record total (place + 1))
      | Option.none => Reader.fail (.tooShort place record total)

/-- The members that are written for the values of the fields. -/
def write : Members σ τ → σ → List (String × Json)
  | .nil, () => []
  | .cons first rest, (value, values) =>
    if first.omits value then rest.write values
    else (first.name, first.codec.write value) :: rest.write values

end Members

namespace Codec

/-- Reads the end of an array from which a record has been read. -/
def closeArray : Reader Unit := do
  match ← Reader.peekToken with
  | none => Reader.fail .endInList
  | some ']' => Reader.advance
  | some ',' =>
    Reader.advance
    if (← Reader.peekToken) = some ']' then Reader.fail .trailingComma
    else Reader.fail .trailingCharacters
  | some _ => Reader.fail .trailingCharacters

/-- Reads a record from an array, from bracket to bracket. -/
def recordFromArray (name : String) (members : Members σ τ) (depth : Nat) : Reader σ := do
  Reader.advance
  let values ← members.fromArray depth name members.size 0
  closeArray
  return values

/-- Reads a record from an object, from bracket to bracket. -/
def recordFromObject (members : Members σ τ) (depth : Nat) : Reader σ := do
  let found ← Reader.members (members.fill depth) members.none
  match members.complete found with
  | .ok values => return values
  | .error fault => Reader.fail fault

/-- The fields of a record together. -/
def tuple (name : String) (members : Members σ τ) : Codec σ where
  read depth :=
    Reader.anyValue (fun s => wrong (.scalar s) (.record name))
      (opening (recordFromArray name members) depth) (opening (recordFromObject members) depth)
  write values := .obj (members.write values)

/-- A record: its name, its fields, and how values are put together and taken apart. -/
def record (name : String) (members : Members σ τ) (make : σ → α) (parts : α → σ) : Codec α :=
  (tuple name members).map make parts

/-- The value of a whole text. -/
def decode (codec : Codec α) (text : Bytes) : Except Fault α :=
  Reader.whole (codec.read Json.maxDepth) text

/-- The text of a value, without spaces. -/
def encode (codec : Codec α) (value : α) : String := (codec.write value).compact

end Codec

end RegionGateway
