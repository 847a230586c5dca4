import RegionGateway.Rust.Import
import RegionGateway.Rust.Tree

/-!
# Modules that generated code refers to

Each module is imported once and referred to by the last segment of its path; symbols of the runtime
are imported by name.
-/

namespace RegionGateway

/-- The paths of the modules that generated code refers to. -/
structure ModulePaths where
  /-- Message types. -/
  messages : String
  /-- Region wrapper structs. -/
  wrappers : String
  /-- Client bindings. -/
  bindings : String
  /-- Helpers that send test requests. -/
  testHelpers : String
  /-- What handlers and clients run on. -/
  runtime : String
  deriving DecidableEq

namespace ModulePaths

/-- The paths used where nothing else is configured. -/
def standard : ModulePaths :=
  ⟨"crate::edgeproto", "crate::ormapi", "crate::mctestclient", "crate::testutil", "restgate_runtime"⟩

/-- A message type. -/
def messageType (paths : ModulePaths) (name : String) : Rust.Ty :=
  .inModule (Rust.localName paths.messages) name

/-- A symbol of the runtime. -/
def ofRuntime (paths : ModulePaths) (symbol : String) : Rust.Use := ⟨paths.runtime, symbol⟩

/-- Symbols of the runtime and the modules a declaration refers to. -/
def uses (paths : ModulePaths) (modules symbols : List String) : List Rust.Use :=
  modules.filterMap Rust.moduleUse? ++ symbols.map paths.ofRuntime

end ModulePaths

end RegionGateway
