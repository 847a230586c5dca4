import RegionGateway.Number.Shortest

/-!
# JSON values and their text

A value keeps the members of an object in the order they were given in. There is one printer,
`Json.chars`; a `Layout` says what stands between the items of an array or object and after a
member's name. `Json.compact` uses no space at all, `Json.pretty` indents by two spaces.
-/

namespace RegionGateway

/-- A JSON value. Numbers without fraction and exponent are integers. -/
inductive Json where
  | null
  | bool (b : Bool)
  | int (i : Int)
  | float (x : Binary64)
  | str (s : String)
  | arr (items : List Json)
  | obj (members : List (String × Json))

namespace Json

/-- Whether the second list of characters comes later in the order of code points. -/
def before (s t : String) : Bool := decide (s < t)

/-- An object's members with one more: the list stays sorted by name, and a member of the same name
is replaced. -/
def insertMember (name : String) (value : Json) : List (String × Json) → List (String × Json)
  | [] => [(name, value)]
  | (other, old) :: rest =>
    if name = other then (name, value) :: rest
    else if before name other then (name, value) :: (other, old) :: rest
    else (other, old) :: insertMember name value rest

/-- The value of a member. -/
def lookup (name : String) : List (String × Json) → Option Json
  | [] => none
  | (other, value) :: rest => if name = other then some value else lookup name rest

/-- The value of a member, if the value is an object that has it. -/
def get? (name : String) : Json → Option Json
  | .obj members => lookup name members
  | _ => none

mutual
/-- Whether two values are equal; floating point numbers are compared as numbers. -/
def same : Json → Json → Bool
  | .null, .null => true
  | .bool a, .bool b => a == b
  | .int a, .int b => a == b
  | .float a, .float b => a.same b
  | .str a, .str b => a == b
  | .arr as, .arr bs => sameItems as bs
  | .obj as, .obj bs => sameMembers as bs
  | _, _ => false

/-- Whether two lists of values are equal item by item. -/
def sameItems : List Json → List Json → Bool
  | [], [] => true
  | a :: as, b :: bs => same a b && sameItems as bs
  | _, _ => false

/-- Whether two lists of members are equal member by member. -/
def sameMembers : List (String × Json) → List (String × Json) → Bool
  | [], [] => true
  | a :: as, b :: bs => a.1 == b.1 && same a.2 b.2 && sameMembers as bs
  | _, _ => false
end

/-! ## Printing -/

/-- The lower-case hexadecimal digits of a number below 256. -/
def hexPair (n : Nat) : List Char := [Nat.digitChar (n / 16), Nat.digitChar (n % 16)]

/-- The characters that stand for one character inside a string. -/
def escaped (c : Char) : List Char :=
  if c = '"' then ['\\', '"']
  else if c = '\\' then ['\\', '\\']
  else if c = '\n' then ['\\', 'n']
  else if c = '\r' then ['\\', 'r']
  else if c = '\t' then ['\\', 't']
  else if c = '\x08' then ['\\', 'b']
  else if c = '\x0c' then ['\\', 'f']
  else if c.toNat < 0x20 then ['\\', 'u', '0', '0'] ++ hexPair c.toNat
  else [c]

/-- A string with its quotation marks. -/
def quote (s : String) : List Char := '"' :: s.toList.flatMap escaped ++ ['"']

/-- What stands between the tokens of an array or object. -/
structure Layout where
  /-- Before an item, and before the closing bracket, at a nesting depth. -/
  gap : Nat → List Char
  /-- After a member's name. -/
  colon : List Char

/-- No space anywhere. -/
def Layout.compact : Layout := ⟨fun _ => [], [':']⟩

/-- One item a line, indented by two spaces for each level. -/
def Layout.pretty : Layout := ⟨fun depth => '\n' :: List.replicate (2 * depth) ' ', [':', ' ']⟩

mutual
/-- The text of a value at a nesting depth. -/
def chars (layout : Layout) (depth : Nat) : Json → List Char
  | .null => ['n', 'u', 'l', 'l']
  | .bool true => ['t', 'r', 'u', 'e']
  | .bool false => ['f', 'a', 'l', 's', 'e']
  | .int i => decimalInt i
  | .float x => x.text
  | .str s => quote s
  | .arr [] => ['[', ']']
  | .arr (item :: items) =>
    '[' :: layout.gap (depth + 1) ++ chars layout (depth + 1) item ++
      itemChars layout (depth + 1) items ++ layout.gap depth ++ [']']
  | .obj [] => ['\x7b', '\x7d']
  | .obj (member :: members) =>
    '\x7b' :: layout.gap (depth + 1) ++ quote member.1 ++ layout.colon ++
      chars layout (depth + 1) member.2 ++ memberChars layout (depth + 1) members ++
      layout.gap depth ++ ['\x7d']

/-- The text of the items after the first. -/
def itemChars (layout : Layout) (depth : Nat) : List Json → List Char
  | [] => []
  | item :: items =>
    ',' :: layout.gap depth ++ chars layout depth item ++ itemChars layout depth items

/-- The text of the members after the first. -/
def memberChars (layout : Layout) (depth : Nat) : List (String × Json) → List Char
  | [] => []
  | member :: members =>
    ',' :: layout.gap depth ++ quote member.1 ++ layout.colon ++ chars layout depth member.2 ++
      memberChars layout depth members
end

/-- The text of a value without spaces. -/
def compact (value : Json) : String := String.ofList (value.chars .compact 0)

/-- The text of a value on indented lines. -/
def pretty (value : Json) : String := String.ofList (value.chars .pretty 0)

end Json

end RegionGateway
