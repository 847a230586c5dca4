import RegionGateway.Interface.Request

/-!
# Fields reachable from a message

The fields of a message, of its nested messages and so on, depth first in declaration order. Each
message is expanded at most once on a path, so that messages may contain themselves; the number of
declared messages bounds the depth.
-/

namespace RegionGateway

/-- A field reachable from a message. -/
structure FieldPath where
  /-- The names on the way in Pascal case, one after the other. -/
  name : String
  /-- The names on the way as declared, joined by dots. -/
  jsonPath : String
  /-- The field numbers on the way, joined by dots. -/
  id : String
  deriving DecidableEq

namespace FieldPath

/-- The path of a field below a path, or of a field of the message itself. -/
def extend (parent : Option FieldPath) (field : FieldDecl) : FieldPath :=
  let name := Rust.pascalCase field.name
  let number := String.ofList (Nat.toDigits 10 field.number.toNat)
  match parent with
  | none => ⟨name, field.name, number⟩
  | some parent =>
    ⟨parent.name ++ name, parent.jsonPath ++ "." ++ field.name, parent.id ++ "." ++ number⟩

/-- The fields of a message that are listed: a field `fields` in the first place is left out. -/
def listed (message : MessageDecl) : List FieldDecl :=
  match message.fields with
  | first :: rest => if first.name = "fields" then rest else first :: rest
  | [] => []

/-- The fields reachable from a message at a path; `seen` are the messages on the way to it. -/
def below (request : Request) :
    Nat → List String → Option FieldPath → MessageDecl → List FieldPath
  | 0, _, _, _ => []
  | depth + 1, seen, parent, message =>
    if message.name ∈ seen then []
    else
      (listed message).flatMap fun field =>
        let path := extend parent field
        path ::
          match request.fieldMessage? field with
          | none => []
          | some inner => below request depth (message.name :: seen) (some path) inner

/-- Every field reachable from a message. -/
def all (request : Request) (message : MessageDecl) : List FieldPath :=
  below request (request.messages.length + 2) [] none message

/-- The line that lists a field for readers: its name and id. -/
def listing (path : FieldPath) : String := path.name ++ ": " ++ path.id

/-- Whether a segment of a path names a field, as declared or in Pascal case. -/
def names (segment : String) (field : FieldDecl) : Bool :=
  field.name == segment || Rust.pascalCase field.name == segment

/-- The field numbers along the segments of a path. -/
def numbers? (request : Request) : Option MessageDecl → List String → Option (List String)
  | _, [] => some []
  | message, segment :: rest => do
    let field ← (← message).fields.find? (names segment)
    let others ← numbers? request (request.fieldMessage? field) rest
    return String.ofList (Nat.toDigits 10 field.number.toNat) :: others

/-- The field id of a dotted path of names, if all of them are declared. -/
def id? (request : Request) (message : MessageDecl) (path : String) : Option String :=
  (numbers? request (some message) (Text.split '.' path)).map (Text.join ".")

end FieldPath

end RegionGateway
