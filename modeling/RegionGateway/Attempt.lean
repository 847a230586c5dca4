/-!
# Operations that may fail and keep their state

What a failing operation has done before it failed stays done: the response it has begun, the files it
has written, the wrapper types it has claimed.
-/

namespace RegionGateway

/-- An operation on a state that may fail; the state is kept then. -/
abbrev Attempt (σ ε α : Type) := ExceptT ε (StateM σ) α

namespace Attempt

/-- An operation that does not touch the state. -/
def ofExcept (result : Except ε α) : Attempt σ ε α := fun s => (result, s)

/-- An operation that changes the state and gives a value with it. -/
def change (f : σ → α × σ) : Attempt σ ε α := fun s =>
  let (value, s) := f s
  (.ok value, s)

/-- Fails unless the answer to a question is yes. -/
def demand (question : StateM σ Bool) (error : ε) : Attempt σ ε Unit := do
  if ← question then return () else throw error

/-- An operation on a part of a state. -/
def within (part : τ → σ) (replace : σ → τ → τ) (operation : Attempt σ ε α) :
    Attempt τ ε α := fun state =>
  let (result, after) := operation (part state)
  (result, replace after state)

end Attempt

end RegionGateway
