import RegionGateway.Attempt
import RegionGateway.Gateway.Envelope
import RegionGateway.Gateway.MessageType
import RegionGateway.Text.Case

/-!
# Update masks

An update touches only the fields that its caller sent. `UpdateMask.ofBody` reads from a request body
which fields those are, by a table that pairs the dotted path of each field with its id. Names are
compared without regard to case and underscores. `UpdateMask.fill` sets the list of an object that has
none.
-/

namespace RegionGateway.UpdateMask

/-- A name in the form in which names are compared. -/
def fold (name : String) : String :=
  String.ofList ((name.toList.filter (· != '_')).flatMap Text.lowerChar)

mutual
/-- The folded paths of the leaves below an object that has a path. A leaf is any value but an
object with members. Below the empty path, members named `fields` are left out. -/
def memberPaths (path : String) : List (String × Json) → List String
  | [] => []
  | (name, value) :: rest =>
    let name := fold name
    (if path = "" ∧ name = "fields" then []
      else valuePaths (if path = "" then name else path ++ "." ++ name) value) ++
      memberPaths path rest

/-- The folded paths of the leaves of a value that has a path. -/
def valuePaths (path : String) : Json → List String
  | .obj [] => [path]
  | .obj (member :: members) => memberPaths path (member :: members)
  | _ => [path]
end

/-- The ids of the fields whose paths are among the given ones, in the order of the table. -/
def select (table : List (String × String)) (present : List String) : List String :=
  (table.filter fun entry => present.contains (fold entry.1)).map (·.2)

/-- The ids of the fields sent under a name of a body; none if there is no object of that name. -/
def ofBody (body : Bytes) (name : String) (table : List (String × String)) :
    Except GatewayError (Option (List String)) := do
  match ← decodeRequest Codec.any body with
  | .obj members =>
    match Json.lookup name members with
    | some (.obj inner) => return some (select table (memberPaths "" inner))
    | _ => return none
  | _ => return none

/-- The list of fields that replaces the one of an object: a list that is not empty stays. -/
def replacement? (body : Bytes) (name : String) (table : List (String × String))
    (fields : List String) : Except GatewayError (Option (List String)) :=
  if fields.isEmpty then ofBody body name table else .ok none

/-- Sets the list of fields of an object in place, as the body of its request says. -/
def fill (type : MessageType α) (table : List (String × String)) (body : Bytes) :
    Attempt (RegionObject α) GatewayError Unit := fun wrapper =>
  match replacement? body type.name table (type.fields wrapper.object) with
  | .error error => (.error error, wrapper)
  | .ok none => (.ok (), wrapper)
  | .ok (some fields) => (.ok (), ⟨wrapper.region, type.setFields fields wrapper.object⟩)

end RegionGateway.UpdateMask
