/-!
# Output modes

A run generates one kind of code. It is asked for by flags and by generator parameters; what the
sources ask for is united, and of several modes the first in a fixed order is taken.
-/

namespace RegionGateway

/-- What a run generates. -/
inductive Mode where
  /-- Handlers, backend traits and the dispatcher. -/
  | server
  /-- Region wrapper structs. -/
  | api
  /-- Client bindings. -/
  | client
  /-- Permission tests. -/
  | test
  /-- Helpers that send test requests. -/
  | testHelper
  deriving DecidableEq

/-- The modes asked for. -/
structure ModeFlags where
  api : Bool
  client : Bool
  test : Bool
  testHelper : Bool
  deriving DecidableEq

namespace ModeFlags

/-- No mode is asked for. -/
def none : ModeFlags := ⟨false, false, false, false⟩

/-- What either asks for. -/
def union (a b : ModeFlags) : ModeFlags :=
  ⟨a.api || b.api, a.client || b.client, a.test || b.test, a.testHelper || b.testHelper⟩

/-- What one generator parameter asks for; a parameter that names no mode asks for nothing. -/
def ofParameter : String → ModeFlags
  | "genapi" => ⟨true, false, false, false⟩
  | "genclient" => ⟨false, true, false, false⟩
  | "gentest" => ⟨false, false, true, false⟩
  | "gentestutil" => ⟨false, false, false, true⟩
  | _ => .none

/-- What generator parameters ask for. -/
def ofParameters (parameters : List String) : ModeFlags :=
  parameters.foldl (fun flags parameter => flags.union (ofParameter parameter)) .none

end ModeFlags

namespace Mode

/-- The mode that flags select; server code where no flag is set. -/
def select (flags : ModeFlags) : Mode :=
  if flags.api then .api
  else if flags.client then .client
  else if flags.test then .test
  else if flags.testHelper then .testHelper
  else .server

/-- Whether the first generated file holds the route table. -/
def listsRoutes : Mode → Bool
  | .test => false
  | _ => true

/-- Whether the dispatcher follows the route table; it calls handlers, which only server code has. -/
def dispatches : Mode → Bool
  | .server => true
  | _ => false

/-- The short name of a mode. -/
def name : Mode → String
  | .server => "server"
  | .api => "api"
  | .client => "client"
  | .test => "test"
  | .testHelper => "testutil"

/-- The mode of a name; any other name is that of server code. -/
def ofName : String → Mode
  | "api" => .api
  | "client" => .client
  | "test" => .test
  | "testutil" => .testHelper
  | _ => .server

end Mode

end RegionGateway
