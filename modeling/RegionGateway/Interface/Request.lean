import RegionGateway.Rust.Name

/-!
# Service interfaces

What a front end knows about an interface after reading its definition files: files that hold
services and messages, services that hold methods, and the options that drive generation. A
`Request` is the input of one generation run.
-/

namespace RegionGateway

/-- A field of a message. -/
structure FieldDecl where
  name : String
  number : UInt32
  /-- The message type of a nested message field. -/
  typeName : Option String
  deriving DecidableEq

/-- A message type. -/
structure MessageDecl where
  name : String
  fields : List FieldDecl
  /-- Whether permission tests are wanted for this message. -/
  generateTest : Bool
  /-- Whether the message brings its own show test. -/
  generateShowTest : Bool
  /-- The field that refers to another organization which the object uses. -/
  usesOrg : Option String
  deriving DecidableEq

/-- A method of a service. -/
structure MethodDecl where
  name : String
  inputType : String
  outputType : String
  /-- Whether the method streams its responses. -/
  serverStreaming : Bool
  /-- Whether the method streams its requests. -/
  clientStreaming : Bool
  /-- The authorization directive as written. -/
  authorization : Option String
  /-- The field of the input naming an organization that must exist before the call. -/
  requiresOrg : Option String
  /-- The leading comment. -/
  summary : Option String
  deriving DecidableEq

/-- A service. -/
structure ServiceDecl where
  name : String
  methods : List MethodDecl
  deriving DecidableEq

/-- An input file. -/
structure FileDecl where
  name : String
  services : List ServiceDecl
  messages : List MessageDecl
  deriving DecidableEq

/-- The input of a generation run. -/
structure Request where
  files : List FileDecl
  /-- The files that output is wanted for; none means all. -/
  filesToGenerate : List String
  /-- Generator parameters, separated by commas. -/
  parameter : Option String
  deriving DecidableEq

/-- The name of the type that addresses a message of a name to a region. -/
def wrapperName (message : String) : String := "Region" ++ message

/-- A marker text as an option: the empty text and "none" say that there is nothing. -/
def unlessNone (marker : Option String) : Option String :=
  marker.filter fun s => s != "" && s != "none"

namespace MethodDecl

/-- The authorization directive, if there is one that is not empty. -/
def directive? (method : MethodDecl) : Option String := method.authorization.filter (· != "")

/-- Whether the method is part of the gateway: it has a directive and takes a single request. -/
def isGateway (method : MethodDecl) : Bool := method.directive?.isSome && !method.clientStreaming

/-- The field naming an organization that must exist before the call. -/
def requiredOrg? (method : MethodDecl) : Option String := unlessNone method.requiresOrg

end MethodDecl

namespace MessageDecl

/-- Whether the message carries the list of fields used for partial updates. -/
def hasFields (message : MessageDecl) : Bool := message.fields.any (·.name == "fields")

/-- The field that refers to an organization which the object uses. -/
def usedOrg? (message : MessageDecl) : Option String := unlessNone message.usesOrg

/-- Whether permission tests are generated for the message. -/
def isTestEligible (message : MessageDecl) : Bool :=
  message.generateTest && !message.generateShowTest

end MessageDecl

namespace ServiceDecl

/-- The methods that are part of the gateway. -/
def gatewayMethods (service : ServiceDecl) : List MethodDecl :=
  service.methods.filter (·.isGateway)

/-- Whether any method is part of the gateway. -/
def hasGatewayMethods (service : ServiceDecl) : Bool := service.methods.any (·.isGateway)

end ServiceDecl

namespace FileDecl

/-- Whether any service has a method that is part of the gateway. -/
def hasGatewayMethods (file : FileDecl) : Bool := file.services.any (·.hasGatewayMethods)

/-- The gateway methods of a file with their services. -/
def gatewayMethods (file : FileDecl) : List (ServiceDecl × MethodDecl) :=
  file.services.flatMap fun service => service.gatewayMethods.map (service, ·)

/-- The module generated for the file: the last part of its path without the extension, other
characters than ASCII letters and digits replaced. A keyword gets an underscore at its end, a name
that would start with a digit or be empty one at its start. -/
def moduleName (file : FileDecl) : String :=
  let base := Text.lastPart '/' file.name
  let stem := (Text.dropEnd? ".proto" base).getD base
  let name := stem.toList.map fun c => if c.isAlphanum then c else '_'
  if String.ofList name ∈ Rust.keywords then String.ofList name ++ "_"
  else
    match name with
    | [] => "_"
    | c :: _ => if c.isDigit then "_" ++ String.ofList name else String.ofList name

end FileDecl

namespace Request

/-- Whether output is wanted for the named file. -/
def shouldGenerate (request : Request) (name : String) : Bool :=
  request.filesToGenerate.isEmpty || request.filesToGenerate.any (· == name)

/-- The files that output is wanted for, in order. -/
def generatedFiles (request : Request) : List FileDecl :=
  request.files.filter fun file => request.shouldGenerate file.name

/-- The gateway methods of the generated files, with file and service, in order. -/
def gatewayMethods (request : Request) : List (FileDecl × ServiceDecl × MethodDecl) :=
  request.generatedFiles.flatMap fun file => file.gatewayMethods.map (file, ·)

/-- The generator parameters, trimmed, without empty ones. -/
def parameters (request : Request) : List String :=
  match request.parameter with
  | none => []
  | some text => ((Text.split ',' text).map Text.trim).filter (· != "")

/-- All messages. -/
def messages (request : Request) : List MessageDecl := request.files.flatMap (·.messages)

/-- The first message of a name. -/
def message? (request : Request) (name : String) : Option MessageDecl :=
  request.messages.find? (·.name == name)

/-- The message type of a field. -/
def fieldMessage? (request : Request) (field : FieldDecl) : Option MessageDecl :=
  field.typeName.bind request.message?

end Request

end RegionGateway
