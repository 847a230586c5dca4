/-!
# Authorization as handlers see it

Handlers do not interpret policy. They ask an `Enforcer` whether a subject may perform an action on
a resource within an organization. Asking is an effect, so that a test can watch it.
-/

namespace RegionGateway

/-- Decides what is allowed. -/
structure Enforcer (m : Type → Type) where
  /-- Whether the subject may perform the action on the resource within the organization; the
  arguments come in the order subject, organization, resource, action. -/
  enforce : String → String → String → String → m Bool
  /-- Whether the named organization exists. -/
  orgExists : String → m Bool

/-- A policy without effects; every organization exists. -/
def Enforcer.ofPolicy {m : Type → Type} [Monad m]
    (policy : String → String → String → String → Bool) : Enforcer m where
  enforce subject org resource action := return policy subject org resource action
  orgExists _ := return true

/-- Allows everything. -/
def Enforcer.allowAll {m : Type → Type} [Monad m] : Enforcer m := .ofPolicy fun _ _ _ _ => true

/-- What a handler knows about the request it serves. -/
structure RegionContext where
  /-- The authenticated caller. -/
  username : String
  /-- The region that the request is about. -/
  region : String
  /-- Whether the caller is trusted and enforcement is bypassed. -/
  skipAuthz : Bool
  deriving DecidableEq

namespace RegionContext

/-- The context of an authenticated user. -/
def ofUser (username : String) : RegionContext := ⟨username, "", false⟩

/-- The context of a trusted caller. -/
def ofInternal (username : String) : RegionContext := ⟨username, "", true⟩

end RegionContext

end RegionGateway
