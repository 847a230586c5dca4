/-!
# Steps of reading loops

Readers repeat a step an unknown number of times; each step says whether the loop goes on.
-/

namespace RegionGateway

/-- What one step of a loop decides. -/
inductive Turn (σ α : Type) where
  /-- Go on with this state. -/
  | again (state : σ)
  /-- Stop with this result. -/
  | done (result : α)

end RegionGateway
