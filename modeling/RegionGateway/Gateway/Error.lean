import RegionGateway.Json.Codec

/-!
# Failures of gateways and clients

Why a gateway refuses a request (`GatewayError`) and why a client call fails (`ClientError`), each
with its status and wording.
-/

namespace RegionGateway

/-- Why a handler refused or failed a request. -/
inductive GatewayError where
  /-- The enforcer denied the request. -/
  | forbidden
  /-- The gateway does not know the region. -/
  | regionNotFound (region : String)
  /-- The organization does not exist. -/
  | orgNotFound (org : String)
  /-- The body is no request of the expected form. -/
  | badRequest (reason : String)
  /-- No handler serves the path. -/
  | notFound (path : String)
  /-- The backend rejected the call with a message and a status. -/
  | backend (message : String) (code : UInt16)
  /-- Writing the response failed. -/
  | io (reason : String)
  deriving DecidableEq

namespace GatewayError

/-- The status a failure is answered with. -/
def status : GatewayError → UInt16
  | .forbidden => 403
  | .regionNotFound _ | .orgNotFound _ | .badRequest _ => 400
  | .notFound _ => 404
  | .backend _ code => code
  | .io _ => 500

/-- The wording of a failure. -/
def message : GatewayError → String
  | .forbidden => "Forbidden"
  | .regionNotFound region => "Region \"" ++ region ++ "\" not found"
  | .orgNotFound org => "Organization \"" ++ org ++ "\" not found"
  | .badRequest reason => "Invalid request: " ++ reason
  | .notFound path => "Path " ++ path ++ " not found"
  | .backend message _ => message
  | .io reason => reason

/-- A backend failure with the status that such failures usually have. -/
def ofBackend (message : String) : GatewayError := .backend message 400

end GatewayError

/-- Why a client call failed. -/
inductive ClientError where
  /-- The gateway answered with another status than 200. -/
  | status (status : UInt16) (message : String)
  /-- There was no reply. -/
  | transport (reason : String)
  /-- The reply is not of the expected form. -/
  | decode (reason : String)
  /-- A streamed reply ended with a failure. -/
  | stream (code : UInt16) (message : String)
  deriving DecidableEq

namespace ClientError

/-- The status that goes with a failure; 0 if there was none. -/
def code : ClientError → UInt16
  | .status answered _ => answered
  | .stream reported _ => reported
  | .transport _ | .decode _ => 0

/-- The wording of a failure. -/
def message : ClientError → String
  | .status _ text => text
  | .transport reason => "Transport error: " ++ reason
  | .decode reason => "Decode error: " ++ reason
  | .stream _ text => text

end ClientError

end RegionGateway
