import RegionGateway.Output.ModulePaths
import RegionGateway.Rust.Tree

/-!
# Parts of generated files

A chunk is a sequence of declarations together with what they import. Chunks are put one after the
other; a file is a chunk below a header.
-/

namespace RegionGateway

/-- Declarations and what they import. -/
structure Chunk where
  uses : List Rust.Use
  items : List Rust.Item

namespace Chunk

/-- No declarations. -/
def empty : Chunk := ⟨[], []⟩

/-- The declarations of both. -/
def append (a b : Chunk) : Chunk := ⟨a.uses ++ b.uses, a.items ++ b.items⟩

/-- The declarations of all. -/
def concat (chunks : List Chunk) : Chunk := chunks.foldr append empty

/-- The text of the declarations. -/
def text (chunk : Chunk) : String := Text.join "" (chunk.items.map Rust.Item.text)

/-- What the declarations import. -/
def imports (chunk : Chunk) : Rust.Imports := Rust.Imports.empty.recordAll chunk.uses

end Chunk

/-- The first line of every generated file. -/
def generatedHeader : String := "// Code generated by restgate. DO NOT EDIT."

/-- A generated file. -/
structure SourceFile where
  /-- The module that the file is. -/
  module : String
  /-- The interface file it is generated from. -/
  source : String
  chunk : Chunk

namespace SourceFile

/-- The name of the file. -/
def name (file : SourceFile) : String := file.module ++ ".rs"

/-- The text before the declarations: where the file comes from, and its imports. -/
def head (file : SourceFile) : String :=
  let imports := file.chunk.imports.text
  generatedHeader ++ "\n// source: " ++ file.source ++ "\n\n" ++
    (if imports = "" then "" else imports ++ "\n")

/-- The text of the file. -/
def text (file : SourceFile) : String := file.head ++ file.chunk.text

end SourceFile

/-- The parameters that say which gateway is called, and as whom. -/
def callerParameters : Rust.Parameters :=
  [("transport", .borrowed false (.dynamic "ApiTransport")), ("uri", .str), ("token", .str)]

/-- The parameter with functions that change the input of a test. -/
def modifiersParameter (paths : ModulePaths) (inputType name : String) : String × Rust.Ty :=
  (name, .borrowed false (.slice (.apply "ModFn" [.name "'_", paths.messageType inputType])))

/-- A call with places as arguments. -/
def callOn (function : String) (arguments : List String) : Rust.Expr :=
  .call function (arguments.map .place)

end RegionGateway
