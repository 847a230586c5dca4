import RegionGateway.Files.Disk
import RegionGateway.Interface.Document

/-!
# Requests in files

A request is saved as an indented JSON document that ends in a newline.
-/

namespace RegionGateway

/-- Why a request cannot be loaded. -/
inductive RequestError where
  | io (error : IoError)
  /-- The file holds no request. -/
  | malformed (fault : Fault)

/-- The wording of a failure to load. -/
def RequestError.message : RequestError → String
  | .io error => error.message
  | .malformed fault => fault.message

namespace Request

/-- The request in a file. -/
def load [Monad m] (disk : Disk m) (path : String) : ExceptT RequestError m Request := do
  let text ← (disk.readText path).adapt .io
  match parse text with
  | .ok request => return request
  | .error fault => throw (.malformed fault)

/-- Saves a request to a file; the directory it stands in is created. -/
def save [Monad m] (disk : Disk m) (path : String) (request : Request) : ExceptT IoError m Unit := do
  disk.makeParent path
  disk.writeText path request.document

end Request

end RegionGateway
