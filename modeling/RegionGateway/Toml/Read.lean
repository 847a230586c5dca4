import RegionGateway.Toml.Date
import RegionGateway.Toml.Node
import RegionGateway.Toml.Numeral
import RegionGateway.Toml.StringText

/-!
# Reading TOML

A document is a sequence of lines: headers, keys with values, and blank ones. `Toml.read` gives its
members, or says why a text is refused.
-/

namespace RegionGateway.Toml

open Scan

/-- How deep values may be nested, and how many parts a key has at most. -/
def maxDepth : Nat := 80

/-! ## Keys -/

/-- Whether a character may stand in a key without quotes. -/
def isBareKey (c : Char) : Bool := c.isAlphanum || c == '_' || c == '-'

/-- One part of a key. -/
def keyPart : Scan String := do
  match ← peek with
  | some '"' => return String.ofList (← ofFunction StringText.oneLine?)
  | some '\'' => return String.ofList (← ofFunction StringText.oneLine?)
  | _ =>
    let name ← takeWhile isBareKey
    check !name.isEmpty
    return String.ofList name

/-- A key: parts with dots between them, and blanks around it. The last part comes first. -/
def key : Scan (String × List String) := do
  let (last, path) ← loop (fun (parts : List String) => do
    spaces
    let part ← keyPart
    spaces
    if ← dropIf ['.'] then return .again (part :: parts)
    return .done (part, parts.reverse)) []
  if maxDepth ≤ path.length then refuse .tooDeep
  return (last, path)

/-! ## Values -/

/-- The further elements of an array, after its bracket or a comma. -/
def element (item : Scan Toml) (items : List Toml) : Scan (Turn (List Toml) Toml) := do
  gaps
  if ← dropIf [']'] then return .done (.arr items.reverse)
  let v ← item
  gaps
  if ← dropIf [','] then return .again (v :: items)
  expect [']']
  return .done (.arr (v :: items).reverse)

/-- The further members of a table written in place, after its brace or a comma. -/
def member (item : Scan Toml) (members : Node.Members) : Scan (Turn Node.Members Toml) := do
  gaps
  if ← dropIf ['\x7d'] then return .done (.table (Node.finishMembers members))
  let (last, path) ← key
  gaps
  expect ['=']
  gaps
  let v ← item
  match Node.addDotted path last v members with
  | none => fail
  | some members =>
    gaps
    if ← dropIf [','] then return .again members
    expect ['\x7d']
    return .done (.table (Node.finishMembers members))

/-- Whether a character goes on with a value that is neither quoted nor bracketed. -/
def isPlain (c : Char) : Bool :=
  !(['=', ',', '[', ']', '\x7b', '\x7d', ' ', '\t', '#', '\r', '\n'].contains c)

/-- The time of day that belongs to a day before it: it follows after one blank. -/
def timeOfDay : Scan Unit := fun rest =>
  let time := (rest.drop 1).takeWhile isPlain
  if rest.head? = some ' ' ∧ time.head?.any Char.isDigit then
    if Date.isZonedTime time then .ok ((), rest.drop (time.length + 1)) else .error .malformed
  else .ok ((), rest)

/-- A number, a date, a time or a truth value. -/
def plain : Scan Toml := do
  let cs ← takeWhile isPlain
  if cs = ['t', 'r', 'u', 'e'] then return .bool true
  if cs = ['f', 'a', 'l', 's', 'e'] then return .bool false
  if Date.isDay cs then
    timeOfDay
    return .date
  if Date.isDate cs then return .date
  match Numeral.read? cs with
  | some numeral => return .number numeral.hasValue
  | none => fail

/-- A value in which at most so many brackets are opened. -/
def value : Nat → Scan Toml
  | 0 => do
    match ← peek with
    | some '[' => fail
    | some '\x7b' => fail
    | some '"' => return .str (String.ofList (← ofFunction StringText.read?))
    | some '\'' => return .str (String.ofList (← ofFunction StringText.read?))
    | _ => plain
  | depth + 1 => do
    match ← peek with
    | some '[' =>
      advance
      loop (element (value depth)) []
    | some '\x7b' =>
      advance
      loop (member (value depth)) []
    | some '"' => return .str (String.ofList (← ofFunction StringText.read?))
    | some '\'' => return .str (String.ofList (← ofFunction StringText.read?))
    | _ => plain

/-! ## Documents -/

/-- What has been read: the last header and the members of the document. -/
structure Progress where
  header : List String
  members : Node.Members

/-- The end of a line: blanks, a comment, and a line end or the end of the document. -/
def endOfLine : Scan Unit := do
  spaces
  comment
  match ← peek with
  | none => return
  | some _ => check (← lineEnd)

/-- Goes on with changed members, if the change is allowed. -/
def goOn (header : List String) (members : Option Node.Members) : Scan Progress := do
  match members with
  | none => fail
  | some members =>
    endOfLine
    return ⟨header, members⟩

/-- One line of a document. -/
def line (p : Progress) : Scan (Turn Progress (List (String × Toml))) := do
  spaces
  match ← peek with
  | none => return .done (Node.finishMembers p.members)
  | some '[' =>
    if ← dropIf ['[', '['] then
      let (last, path) ← key
      expect [']', ']']
      return .again (← goOn (path ++ [last]) (Node.beginRepeated path last p.members))
    else
      advance
      let (last, path) ← key
      expect [']']
      return .again (← goOn (path ++ [last]) (Node.beginTable path last p.members))
  | some c =>
    if c = '#' ∨ c = '\n' ∨ c = '\r' then
      endOfLine
      return .again p
    else
      let (last, path) ← key
      expect ['=']
      spaces
      let v ← value maxDepth
      return .again (← goOn p.header (Node.addBelow p.header path last v p.members))

/-- The members of a document. A mark of byte order at its front is passed over. -/
def read (text : String) : Except Refusal (List (String × Toml)) :=
  let cs := match text.toList with
    | '\uFEFF' :: rest => rest
    | cs => cs
  (loop line ⟨[], []⟩ cs).map (·.1)

end RegionGateway.Toml
