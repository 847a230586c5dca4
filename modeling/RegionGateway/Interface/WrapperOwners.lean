/-!
# Owners of wrapper types

Many methods share an input type, and its wrapper is declared once. The first method to claim a type
declares the wrapper; the module it is declared in is remembered for the others. Entries are never
changed or removed.
-/

namespace RegionGateway

/-- The module that declares the wrapper of each claimed type. -/
structure WrapperOwners where
  entries : List (String × String)
  deriving DecidableEq

namespace WrapperOwners

/-- No type is claimed. -/
def empty : WrapperOwners := ⟨[]⟩

/-- The module that declares the wrapper of a type. -/
def owner? (owners : WrapperOwners) (type : String) : Option String := owners.entries.lookup type

/-- Whether a type is claimed. -/
def contains (owners : WrapperOwners) (type : String) : Bool := (owners.owner? type).isSome

/-- Claims a type for a module: whether this is the first claim, and the owners afterwards. -/
def claim (type module : String) (owners : WrapperOwners) : Bool × WrapperOwners :=
  if owners.contains type then (false, owners) else (true, ⟨(type, module) :: owners.entries⟩)

end WrapperOwners

end RegionGateway
