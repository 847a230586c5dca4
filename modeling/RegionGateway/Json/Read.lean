import RegionGateway.Json.Scalar
import RegionGateway.Json.Value

/-!
# Reading JSON texts

`Json.read` reads a value of any kind. It carries the number of brackets that may still be opened,
so that it recurses on that number and refuses deeper nesting. `Json.skip` passes over a value that
nobody asked for: it checks the grammar only, neither nesting nor the meaning of escapes and
numbers. `Reader.anyValue` is the choice between scalar, array and object that every typed reader
makes too.
-/

namespace RegionGateway

/-! ## Tokens between values -/

namespace Reader

/-- Whether an array has another element; the reader stands before it, or before the bracket. -/
def anotherElement (first : Bool) : Reader Bool := do
  match ← peekToken with
  | none => fail .endInList
  | some ']' => return false
  | some c =>
    if first then return true
    else if c = ',' then
      advance
      match ← peekToken with
      | none => fail .endInValue
      | some ']' => fail .trailingComma
      | some _ => return true
    else fail .listEndExpected

/-- Whether an object has another member; the reader stands before its name, or before the
bracket. -/
def anotherMember (first : Bool) : Reader Bool := do
  match ← peekToken with
  | none => fail .endInObject
  | some '\x7d' => return false
  | some c =>
    if first then
      if c = '"' then return true else fail .keyExpected
    else if c = ',' then
      advance
      match ← peekToken with
      | none => fail .endInValue
      | some '\x7d' => fail .trailingComma
      | some d => if d = '"' then return true else fail .keyExpected
    else fail .objectEndExpected

/-- Reads the colon after a member's name. -/
def colon : Reader Unit := do
  match ← peekToken with
  | none => fail .endInObject
  | some c => if c = ':' then advance else fail .colonExpected

/-- Reads the name of a member. -/
def memberName : Reader String := do
  advance
  StringText.read

/-- Reads the elements of an array, from its opening bracket to its closing one. -/
def items (item : Reader α) : Reader (List α) := do
  advance
  let read ← loop (fun read => do
    if ← anotherElement read.isEmpty then return .again ((← item) :: read)
    else return .done read.reverse) []
  advance
  return read

/-- Reads the members of an object, from its opening bracket to its closing one, into a state;
`member` reads the rest of a member after its name. -/
def members (member : String → σ → Reader σ) (start : σ) : Reader σ := do
  advance
  let state ← loop (fun (state : Bool × σ) => do
    if ← anotherMember state.1 then
      let name ← memberName
      return .again (false, ← member name state.2)
    else return .done state.2) (true, start)
  advance
  return state

/-- Reads a value: a scalar is read and handed on, before an array or object the choice is made. -/
def anyValue (scalar : Scalar → Reader α) (list object : Reader α) : Reader α := do
  match ← peekToken with
  | none => fail .endInValue
  | some '[' => list
  | some '\x7b' => object
  | some '"' =>
    advance
    scalar (.str (← StringText.read))
  | some 'n' =>
    word ['n', 'u', 'l', 'l']
    scalar .null
  | some 't' =>
    word ['t', 'r', 'u', 'e']
    scalar (.bool true)
  | some 'f' =>
    word ['f', 'a', 'l', 's', 'e']
    scalar (.bool false)
  | some c =>
    if c = '-' ∨ ('0' ≤ c ∧ c ≤ '9') then scalar (← NumberText.readValue)
    else fail .valueExpected

end Reader

/-! ## Values of any kind -/

namespace Json

/-- How many brackets may be open at once. -/
def maxDepth : Nat := 127

/-- The value that a scalar is. -/
def ofScalar : Scalar → Json
  | .null => .null
  | .bool b => .bool b
  | .int i => .int i
  | .float x => .float x
  | .str s => .str s

/-- Reads a value in which at most so many brackets are opened. The members of an object are sorted
by name; the last one of a name counts. -/
def read : Nat → Reader Json
  | 0 => Reader.anyValue (fun s => return ofScalar s) (Reader.fail .tooDeep) (Reader.fail .tooDeep)
  | depth + 1 =>
    Reader.anyValue (fun s => return ofScalar s)
      (do return .arr (← Reader.items (read depth)))
      (do
        let add := fun name members => do
          Reader.colon
          return insertMember name (← read depth) members
        return .obj (← Reader.members add []))

/-! ## Values nobody asked for -/

/-- Passes over the next element of an array, or over its end. -/
def skipElement (item : Reader Unit) (first : Bool) : Reader (Turn Bool Unit) := do
  match ← Reader.peekToken with
  | none => Reader.fail .endInList
  | some ']' =>
    Reader.advance
    return .done ()
  | some c =>
    if first then
      item
      return .again false
    else if c = ',' then
      Reader.advance
      item
      return .again false
    else Reader.fail .listEndExpected

/-- Passes over a member of an object. -/
def skipMember (item : Reader Unit) : Reader Unit := do
  match ← Reader.peekToken with
  | none => Reader.fail .endInObject
  | some c =>
    if c = '"' then
      Reader.advance
      StringText.skip
      Reader.colon
      item
    else Reader.fail .keyExpected

/-- Passes over the next member of an object, or over its end. -/
def skipMembers (item : Reader Unit) (first : Bool) : Reader (Turn Bool Unit) := do
  match ← Reader.peekToken with
  | none => Reader.fail .endInObject
  | some '\x7d' =>
    Reader.advance
    return .done ()
  | some c =>
    if first then
      skipMember item
      return .again false
    else if c = ',' then
      Reader.advance
      skipMember item
      return .again false
    else Reader.fail .objectEndExpected

/-- Passes over a value that is nested at most so deeply. -/
def skipFor : Nat → Reader Unit
  | 0 => Reader.fail .endInValue
  | fuel + 1 => do
    match ← Reader.peekToken with
    | none => Reader.fail .endInValue
    | some '[' =>
      Reader.advance
      Reader.loop (skipElement (skipFor fuel)) true
    | some '\x7b' =>
      Reader.advance
      Reader.loop (skipMembers (skipFor fuel)) true
    | some '"' =>
      Reader.advance
      StringText.skip
    | some 'n' => Reader.word ['n', 'u', 'l', 'l']
    | some 't' => Reader.word ['t', 'r', 'u', 'e']
    | some 'f' => Reader.word ['f', 'a', 'l', 's', 'e']
    | some c =>
      if c = '-' ∨ ('0' ≤ c ∧ c ≤ '9') then NumberText.skip
      else Reader.fail .valueExpected

/-- Passes over a value. Each bracket takes a byte, so the input bounds the nesting. -/
def skip : Reader Unit := fun input => skipFor (input.length + 1) input

/-- The value of a whole text. -/
def parse (text : Bytes) : Except Fault Json := Reader.whole (read maxDepth) text

end Json

end RegionGateway
