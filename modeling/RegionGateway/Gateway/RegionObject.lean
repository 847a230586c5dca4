import RegionGateway.Json.Codec

/-!
# Region wrappers

A request names a region and carries the object that the call is about. The wrapper of a type `T`
is the record `RegionT` with the fields `Region` and `T`.
-/

namespace RegionGateway

/-- An object together with the region it lives in. -/
structure RegionObject (α : Type) where
  region : String
  object : α
  deriving DecidableEq

namespace RegionObject

/-- Wrappers of the objects of a named type as JSON. -/
def codec (typeName : String) (object : Codec α) : Codec (RegionObject α) :=
  Codec.record ("Region" ++ typeName)
    (.cons (.required "Region" .text) <| .cons (.required typeName object) .nil)
    (fun (region, object, ()) => ⟨region, object⟩)
    (fun r => (r.region, r.object, ()))

end RegionObject

end RegionGateway
