import RegionGateway.Files.Disk
import RegionGateway.Gateway.Error

/-!
# Token files

A bearer token is the first line of a file, without white space around it. What follows the first line
does not matter.
-/

namespace RegionGateway.Token

/-- The bytes before the first line feed. -/
def firstLine (content : Bytes) : Bytes := content.takeWhile (· != 0x0A)

/-- The token in the content of a file. -/
def parse (content : Bytes) : Except ClientError String :=
  match Utf8.text? (firstLine content) with
  | none => .error (.transport ("Failed to read token file: " ++ IoError.notText.message))
  | some line =>
    if Text.trim line = "" then .error (.transport "Token file is empty") else .ok (Text.trim line)

/-- The token in a file. -/
def ofFile [Monad m] (disk : Disk m) (path : String) : ExceptT ClientError m String := do
  let content ← (disk.read path).adapt fun e =>
    ClientError.transport ("Failed to read token file: " ++ e.message)
  match parse content with
  | .ok token => return token
  | .error e => throw e

end RegionGateway.Token
