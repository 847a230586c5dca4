import RegionGateway.Interface.Request
import RegionGateway.Json.Codec

/-!
# Requests as JSON documents

The codecs of the records a request is made of. A request is written with all of its fields, except
that absent options and an empty list of files to generate are left out.
-/

namespace RegionGateway

/-- Fields as JSON. -/
def FieldDecl.codec : Codec FieldDecl :=
  Codec.record "FieldDefinition"
    (.cons (.required "name" .text) <| .cons (.required "number" .u32) <|
      .cons (.optional "type_name" .text) .nil)
    (fun (name, number, typeName, ()) => ⟨name, number, typeName⟩)
    (fun f => (f.name, f.number, f.typeName, ()))

/-- Messages as JSON. -/
def MessageDecl.codec : Codec MessageDecl :=
  Codec.record "MessageDefinition"
    (.cons (.required "name" .text) <| .cons (.defaulted "fields" (.list FieldDecl.codec) []) <|
      .cons (.defaulted "generate_cud_test" .flag false) <|
      .cons (.defaulted "generate_show_test" .flag false) <|
      .cons (.optional "uses_org" .text) .nil)
    (fun (name, fields, test, showTest, usesOrg, ()) => ⟨name, fields, test, showTest, usesOrg⟩)
    (fun m => (m.name, m.fields, m.generateTest, m.generateShowTest, m.usesOrg, ()))

/-- Methods as JSON. -/
def MethodDecl.codec : Codec MethodDecl :=
  Codec.record "MethodDefinition"
    (.cons (.required "name" .text) <| .cons (.required "input_type" .text) <|
      .cons (.required "output_type" .text) <|
      .cons ((Member.defaulted "server_streaming" .flag false).also "streaming") <|
      .cons (.defaulted "client_streaming" .flag false) <|
      .cons (.optional "mc2_api" .text) <| .cons (.optional "requires_org" .text) <|
      .cons (.optional "summary" .text) .nil)
    (fun (name, inputType, outputType, server, client, authorization, requiresOrg, summary, ()) =>
      ⟨name, inputType, outputType, server, client, authorization, requiresOrg, summary⟩)
    (fun m => (m.name, m.inputType, m.outputType, m.serverStreaming, m.clientStreaming,
      m.authorization, m.requiresOrg, m.summary, ()))

/-- Services as JSON. -/
def ServiceDecl.codec : Codec ServiceDecl :=
  Codec.record "ServiceDefinition"
    (.cons (.required "name" .text) <|
      .cons (.defaulted "methods" (.list MethodDecl.codec) []) .nil)
    (fun (name, methods, ()) => ⟨name, methods⟩)
    (fun s => (s.name, s.methods, ()))

/-- Files as JSON. -/
def FileDecl.codec : Codec FileDecl :=
  Codec.record "FileDefinition"
    (.cons (.required "name" .text) <|
      .cons (.defaulted "services" (.list ServiceDecl.codec) []) <|
      .cons (.defaulted "messages" (.list MessageDecl.codec) []) .nil)
    (fun (name, services, messages, ()) => ⟨name, services, messages⟩)
    (fun f => (f.name, f.services, f.messages, ()))

namespace Request

/-- Requests as JSON. -/
def codec : Codec Request :=
  Codec.record "GenerationRequest"
    (.cons (.required "files" (.list FileDecl.codec)) <|
      .cons ((Member.defaulted "files_to_generate" (.list .text) []).leftOutWhen List.isEmpty) <|
      .cons (.optional "parameter" .text) .nil)
    (fun (files, filesToGenerate, parameter, ()) => ⟨files, filesToGenerate, parameter⟩)
    (fun r => (r.files, r.filesToGenerate, r.parameter, ()))

/-- The request that a text describes. -/
def parse (text : String) : Except Fault Request := codec.decode (Utf8.bytes text)

/-- The text that a request is saved as. -/
def document (request : Request) : String := (codec.write request).pretty ++ "\n"

end Request

end RegionGateway
